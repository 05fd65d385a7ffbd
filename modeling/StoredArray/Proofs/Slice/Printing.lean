import StoredArray.Proofs.Slice.Grammar

namespace StoredArray

theorem Decimal.numeral_integer (n : Int) : Numeral (integer n) n :=
  numeral_of_readInteger (readInteger_integer n)

namespace Index

theorem Bound.printed (bound : Option Int64) : Bound (Slice.boundChars bound) bound := by
  cases bound with
  | none => exact .missing nofun
  | some word =>
    have bare : Bound ([] ++ Decimal.integer word.toInt ++ []) (some word) :=
      .number nofun nofun (Decimal.numeral_integer word.toInt)
    simpa [Slice.boundChars] using bare

theorem Named.printed_byte (word : Int64) : Named (Decimal.integer word.toInt) (.byte word) :=
  .byte (Bound.printed (some word))

theorem Named.printed_slice (slice : Slice) : Named slice.chars (.slice slice) := by
  obtain ⟨start, stop, step⟩ := slice
  have low := Bound.printed start
  have high := Bound.printed stop
  -- A step that is left out takes its colon with it, and a step that is there always has one.
  cases step with
  | none => simpa [Slice.chars] using Named.range low high
  | some step =>
    have pace := Bound.printed (some step)
    simpa [Slice.chars, Slice.boundChars] using Named.stride low high pace

theorem parse_of_named {text : String} {index : Index} (named : Named text.toList index) :
    parse text = .ok index := by
  rw [parse, read_of_named named]

theorem parse_slice_text (slice : Slice) : parse slice.text = .ok (.slice slice) := by
  apply parse_of_named
  simpa [Slice.text] using Named.printed_slice slice

theorem parse_word (word : Int64) : parse (Decimal.word word) = .ok (.byte word) := by
  apply parse_of_named
  simpa [Decimal.word] using Named.printed_byte word

/-- Reading undoes printing, for every slice and every word. So a text that is read as a slice may
be replaced by what that slice prints, no two slices print alike, and none prints like a byte. -/
theorem parse_undoes_printing :
    (∀ slice : Slice, parse slice.text = .ok (.slice slice)) ∧
      (∀ word : Int64, parse (Decimal.word word) = .ok (.byte word)) ∧
      (∀ text slice, parse text = .ok (.slice slice) → parse slice.text = parse text) ∧
      Function.Injective Slice.text ∧
      ∀ (slice : Slice) word, parse slice.text ≠ .ok (.byte word) := by
  refine ⟨parse_slice_text, parse_word, ?_, ?_, ?_⟩
  · intro text slice accepted
    rw [parse_slice_text, accepted]
  · intro slice other same
    have read := parse_slice_text slice
    rw [same, parse_slice_text] at read
    cases read
    rfl
  · intro slice word confused
    rw [parse_slice_text] at confused
    cases confused

example : parse { stop := some (-9223372036854775808), step := some 0 : Slice }.text =
    .ok (.slice { stop := some (-9223372036854775808), step := some 0 }) := by
  decide

end Index

end StoredArray
