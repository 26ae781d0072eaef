import BrokerWire.Proofs.Access.Stream

/-!
# No place outside

None of the readers by position names a place outside its bytes, for whatever frame, template,
length of a block, version or stream, and each comes to what plain reading comes to. The word that
would stand in for a missing field of the first version is never needed.
-/
namespace BrokerWire

open Access

/-- A reading by position names no place outside, and comes to an outcome of plain reading. -/
structure Access.Agrees {ε α : Type} (fetched : Access ε α) (outcome : Except ε α) : Prop where
  /-- No place outside is named. -/
  inside : fetched ≠ .error .outside
  /-- The result, or the refusal, is the one of plain reading. -/
  same : fetched = within outcome

/-- What is the outcome of plain reading names no place outside. -/
theorem Access.agrees_of_eq {ε α : Type} {fetched : Access ε α} {outcome : Except ε α}
    (same : fetched = within outcome) : fetched.Agrees outcome :=
  ⟨same ▸ within_ne_outside outcome, same⟩

/-- A field is fetched by its width from within the block, or found absent. -/
inductive Block.FieldWithin (block : Block) (field : BlockField) : Prop where
  /-- The field is a byte. -/
  | byte (width : field.size = 1) (fetched : (block.fetch8 field : Access BodyFault _).Agrees
      (.ok ((block.number? field).map UInt8.ofNat)))
  /-- The field is a word of two bytes. -/
  | word16 (width : field.size = 2) (fetched : (block.fetch16 field : Access BodyFault _).Agrees
      (.ok ((block.number? field).map UInt16.ofNat)))
  /-- The field is a word of eight bytes. -/
  | word64 (width : field.size = 8) (fetched : (block.fetch64 field : Access BodyFault _).Agrees
      (.ok ((block.number? field).map UInt64.ofNat)))

/-- Every field of a template takes one, two or eight bytes. -/
theorem Template.size_cases {template : Template} {field : BlockField}
    (listed : field ∈ template.fields) : field.size = 1 ∨ field.size = 2 ∨ field.size = 8 := by
  have all : ∀ field ∈ template.fields, field.size = 1 ∨ field.size = 2 ∨ field.size = 8 := by
    cases template <;> decide
  exact all field listed

/-- A field of a template lies within every block that has been cut off for the template. -/
theorem Block.fieldWithin_of_holds {template : Template} {block : Block} {field : BlockField}
    (holds : block.Holds template.fields) (listed : field ∈ template.fields) :
    block.FieldWithin field := by
  obtain width | width | width := Template.size_cases listed
  · exact .byte width (agrees_of_eq (Block.fetch8_of_mem holds listed width))
  · exact .word16 width (agrees_of_eq (Block.fetch16_of_mem holds listed width))
  · exact .word64 width (agrees_of_eq (Block.fetch64_of_mem holds listed width))

/-- No reader by position names a place outside its bytes. -/
structure NoPlaceOutside : Prop where
  /-- The header of a frame. -/
  frameHeader : ∀ bytes : Bytes, (FrameHeader.fetch bytes : Access Failure _).Agrees
    (.ok ((FrameHeader.read bytes).map Prod.fst))
  /-- The number of a protocol. -/
  protocol : ∀ bytes, (Protocol.fetch bytes).Agrees ((Protocol.read bytes).map Prod.fst)
  /-- Correlation words. -/
  correlation : ∀ bytes, (Correlation.fetch bytes).Agrees ((Correlation.read bytes).map Prod.fst)
  /-- A descriptor. -/
  descriptor : ∀ bytes, (Descriptor.fetch bytes).Agrees ((Descriptor.read bytes).map Prod.fst)
  /-- All headers of a frame, whatever its body. -/
  headers : ∀ frame, (Headers.fetch frame).Agrees ((Headers.read frame).map Prod.fst)
  /-- The message of a frame, from where its headers end. -/
  message : ∀ unknown frame,
    (Message.fetch unknown frame).Agrees (Message.ofFrame unknown frame)
  /-- A block of any announced length, for any fields. -/
  block : ∀ fields length version bytes,
    (Block.fetch fields length version bytes).Agrees (Block.read fields length version bytes)
  /-- Each field of a template, in every block that has been cut off for it. -/
  field : ∀ (template : Template) length version bytes block rest,
    Block.fetch template.fields length version bytes = .ok (block, rest) →
      ∀ field ∈ template.fields, block.FieldWithin field
  /-- No other word stands in for a field of the first version. -/
  first : ∀ (template : Template) length version bytes block rest,
    Block.fetch template.fields length version bytes = .ok (block, rest) →
      ∀ field ∈ template.fields, field.since = 0 →
        (∃ word, field.size = 2 ∧ block.fetch16 (ε := BodyFault) field = .ok (some word)) ∨
          ∃ word, field.size = 8 ∧ block.fetch64 (ε := BodyFault) field = .ok (some word)
  /-- Data behind their length. -/
  data : ∀ bytes, (fetchData bytes).Agrees ((readData bytes).map Prod.fst)
  /-- The body of any template, of any announced length and version. -/
  body : ∀ template length version bytes,
    (Body.fetch template length version bytes).Agrees (Body.read template length version bytes)
  /-- The headers that are read from a stream, at whatever byte it stops. -/
  stream : ∀ (settings : MessageSettings) stream,
    (settings.fetchHeaders stream).1.Agrees (settings.readHeaders stream).1 ∧
      (settings.fetchHeaders stream).2 = (settings.readHeaders stream).2

/-- No reader by position names a place outside its bytes, whatever they are. -/
theorem noPlaceOutside : NoPlaceOutside where
  frameHeader bytes := agrees_of_eq (FrameHeader.fetch_eq bytes)
  protocol bytes := agrees_of_eq (Protocol.fetch_eq bytes)
  correlation bytes := agrees_of_eq (Correlation.fetch_eq bytes)
  descriptor bytes := agrees_of_eq (Descriptor.fetch_eq bytes)
  headers frame := agrees_of_eq (Headers.fetch_eq frame)
  message unknown frame := agrees_of_eq (Message.fetch_eq unknown frame)
  block fields length version bytes := agrees_of_eq (Block.fetch_eq fields length version bytes)
  field template length version bytes block rest found field listed :=
    Block.fieldWithin_of_holds (Block.holds_of_fetch found) listed
  first template length version bytes block rest found field listed first :=
    Block.fetch_first found listed first
  data bytes := agrees_of_eq (fetchData_eq bytes)
  body template length version bytes :=
    agrees_of_eq (Body.fetch_eq template length version bytes)
  stream settings stream := by
    obtain ⟨same, left⟩ := Prod.mk.inj (settings.fetchHeaders_eq stream)
    exact ⟨agrees_of_eq same, left⟩

end BrokerWire
