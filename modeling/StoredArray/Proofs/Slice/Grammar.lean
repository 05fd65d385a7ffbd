import Mathlib.Algebra.Group.Nat.Defs
import Mathlib.Data.List.TakeWhile
import StoredArray.Slice.Basic

namespace StoredArray

namespace Decimal

def worth : List Char → Nat
  | [] => 0
  | digit :: rest => (digit.toNat - '0'.toNat) * 10 ^ rest.length + worth rest

def Digits (digits : List Char) : Prop :=
  digits ≠ [] ∧ ∀ c ∈ digits, c.isDigit = true

inductive Numeral : List Char → Int → Prop where
  | unsigned {digits : List Char} (spelled : Digits digits) : Numeral digits (worth digits)
  | plus {digits : List Char} (spelled : Digits digits) : Numeral ('+' :: digits) (worth digits)
  | minus {digits : List Char} (spelled : Digits digits) : Numeral ('-' :: digits) (-worth digits)

theorem ofDigitChars_eq_worth (digits : List Char) (sofar : Nat) :
    Nat.ofDigitChars 10 digits sofar = sofar * 10 ^ digits.length + worth digits := by
  induction digits generalizing sofar with
  | nil => simp [worth]
  | cons digit rest shorter =>
    rw [Nat.ofDigitChars_cons, shorter, worth, List.length_cons, Nat.pow_succ, Nat.add_mul,
      Nat.mul_comm 10 sofar, Nat.mul_assoc, Nat.mul_comm 10 (10 ^ rest.length), Nat.add_assoc]

theorem readNatural_eq_some_iff (digits : List Char) (n : Nat) :
    readNatural digits = some n ↔ Digits digits ∧ n = worth digits := by
  simp only [readNatural, Digits, ← List.all_eq_true]
  split
  · rename_i spelled
    rw [ofDigitChars_eq_worth, Nat.zero_mul, Nat.zero_add, Option.some.injEq]
    exact ⟨fun same => ⟨spelled, same.symm⟩, fun known => known.2.symm⟩
  · rename_i other
    constructor
    · intro found
      cases found
    · intro known
      exact absurd known.1 other

theorem Digits.isDigit_of_cons {c : Char} {rest : List Char} (spelled : Digits (c :: rest)) :
    c.isDigit = true :=
  spelled.2 c List.mem_cons_self

theorem readInteger_of_numeral {text : List Char} {n : Int} (numeral : Numeral text n) :
    readInteger text = some n := by
  cases numeral with
  | unsigned spelled =>
    -- The signs are matched first, and no digit is one.
    have read := (readNatural_eq_some_iff text _).mpr ⟨spelled, rfl⟩
    unfold readInteger
    split
    · cases spelled.isDigit_of_cons
    · cases spelled.isDigit_of_cons
    · rw [read]
      rfl
  | plus spelled =>
    rw [readInteger, (readNatural_eq_some_iff _ _).mpr ⟨spelled, rfl⟩]
    rfl
  | minus spelled =>
    rw [readInteger, (readNatural_eq_some_iff _ _).mpr ⟨spelled, rfl⟩]
    rfl

theorem numeral_of_readInteger {text : List Char} {n : Int} (read : readInteger text = some n) :
    Numeral text n := by
  unfold readInteger at read
  split at read
  all_goals
    obtain ⟨size, digits, rfl⟩ := Option.map_eq_some_iff.mp read
    obtain ⟨spelled, rfl⟩ := (readNatural_eq_some_iff _ _).mp digits
  · exact .plus spelled
  · exact .minus spelled
  · exact .unsigned spelled

theorem readWord_eq_some_iff (text : List Char) (word : Int64) :
    readWord text = some word ↔ Numeral text word.toInt := by
  have least := word.le_toInt
  have most := word.toInt_lt
  constructor
  · intro read
    unfold readWord at read
    split at read
    · cases read
    · rename_i n found
      split at read
      · rename_i fits
        have same : word.toInt = n := by
          rw [← Option.some.inj read]
          exact Int64.toInt_ofInt_of_le fits.1 fits.2
        rw [same]
        exact numeral_of_readInteger found
      · cases read
  · intro numeral
    rw [readWord, readInteger_of_numeral numeral]
    dsimp only
    rw [if_pos ⟨least, most⟩, Int64.ofInt_toInt]

theorem Numeral.ne_nil {text : List Char} {n : Int} (numeral : Numeral text n) : text ≠ [] := by
  cases numeral with
  | unsigned spelled => exact spelled.1
  | plus _ => exact List.cons_ne_nil _ _
  | minus _ => exact List.cons_ne_nil _ _

theorem Numeral.mem {text : List Char} {n : Int} (numeral : Numeral text n) {c : Char}
    (member : c ∈ text) : c = '+' ∨ c = '-' ∨ c.isDigit = true := by
  cases numeral with
  | unsigned spelled => exact .inr (.inr (spelled.2 c member))
  | plus spelled =>
    rcases List.mem_cons.mp member with sign | digit
    · exact .inl sign
    · exact .inr (.inr (spelled.2 c digit))
  | minus spelled =>
    rcases List.mem_cons.mp member with sign | digit
    · exact .inr (.inl sign)
    · exact .inr (.inr (spelled.2 c digit))

end Decimal

namespace Text

def Blank (text : List Char) : Prop :=
  ∀ c ∈ text, isBlank c = true

theorem isBlank_eq_false_of_isDigit {c : Char} (digit : c.isDigit = true) : isBlank c = false := by
  have range := Char.isDigit_iff_toNat.mp digit
  have zero : '0'.toNat = 48 := rfl
  have nine : '9'.toNat = 57 := rfl
  rw [zero, nine] at range
  generalize place : c.toNat = n at range
  simp only [isBlank, place, Bool.or_eq_false_iff, Bool.and_eq_false_iff, decide_eq_false_iff_not,
    beq_eq_false_iff_ne]
  omega

theorem trim_of_blank {text : List Char} (blank : Blank text) : trim text = [] := by
  rw [trim, List.dropWhile_eq_nil_iff.mpr blank]
  rfl

theorem dropWhile_of_bare {text : List Char} (bare : ∀ c ∈ text, isBlank c = false) :
    text.dropWhile isBlank = text := by
  cases text with
  | nil => rfl
  | cons c rest =>
    have visible := bare c List.mem_cons_self
    rw [List.dropWhile_cons_of_neg (by rw [visible]; exact Bool.false_ne_true)]

theorem trim_between {before core after : List Char} (left : Blank before) (right : Blank after)
    (some_core : core ≠ []) (bare : ∀ c ∈ core, isBlank c = false) :
    trim (before ++ core ++ after) = core := by
  have front : (before ++ core ++ after).dropWhile isBlank = core ++ after := by
    rw [List.append_assoc, List.dropWhile_append_of_pos left, List.dropWhile_append,
      dropWhile_of_bare bare, if_neg (by simpa using some_core)]
  have back : (core ++ after).reverse.dropWhile isBlank = core.reverse := by
    have blank : ∀ c ∈ after.reverse, isBlank c = true :=
      fun c member => right c (List.mem_reverse.mp member)
    have visible : ∀ c ∈ core.reverse, isBlank c = false :=
      fun c member => bare c (List.mem_reverse.mp member)
    rw [List.reverse_append, List.dropWhile_append_of_pos blank, dropWhile_of_bare visible]
  rw [trim, front, back, List.reverse_reverse]

theorem exists_blank_trim (text : List Char) :
    ∃ before after, Blank before ∧ Blank after ∧ text = before ++ trim text ++ after := by
  refine ⟨text.takeWhile isBlank, ((text.dropWhile isBlank).reverse.takeWhile isBlank).reverse,
    fun c member => List.mem_takeWhile_imp member,
    fun c member => List.mem_takeWhile_imp (List.mem_reverse.mp member), ?_⟩
  rw [trim, List.append_assoc, ← List.reverse_append, List.takeWhile_append_dropWhile,
    List.reverse_reverse, List.takeWhile_append_dropWhile]

theorem parts_of_not_mem {separator : Char} {part : List Char} (plain : separator ∉ part) :
    parts separator part = [part] := by
  induction part with
  | nil => rfl
  | cons c rest shorter =>
    rw [List.mem_cons, not_or] at plain
    rw [parts, if_neg (fun same => plain.1 same.symm), shorter plain.2]

theorem parts_append_cons {separator : Char} {part : List Char} (plain : separator ∉ part)
    (rest : List Char) :
    parts separator (part ++ separator :: rest) = part :: parts separator rest := by
  induction part with
  | nil => rw [List.nil_append, parts, if_pos rfl]
  | cons c others shorter =>
    rw [List.mem_cons, not_or] at plain
    rw [List.cons_append, parts, if_neg (fun same => plain.1 same.symm), shorter plain.2]

end Text

namespace Index

open Decimal Text

inductive Bound : List Char → Option Int64 → Prop where
  | missing {part : List Char} (blank : Blank part) : Bound part none
  | number {before numeral after : List Char} {word : Int64} (left : Blank before)
      (right : Blank after) (spelled : Numeral numeral word.toInt) :
      Bound (before ++ numeral ++ after) (some word)

/-- The texts that name an index: a number alone names a byte, and two or three bounds with colons
between them name a slice. -/
inductive Named : List Char → Index → Prop where
  | byte {part : List Char} {word : Int64} (index : Bound part (some word)) :
      Named part (.byte word)
  | range {first second : List Char} {start stop : Option Int64} (low : Bound first start)
      (high : Bound second stop) : Named (first ++ ':' :: second) (.slice { start, stop })
  | stride {first second third : List Char} {start stop step : Option Int64}
      (low : Bound first start) (high : Bound second stop) (pace : Bound third step) :
      Named (first ++ ':' :: (second ++ ':' :: third)) (.slice { start, stop, step })

theorem isBlank_colon : isBlank ':' = false := by
  decide

theorem readBound_eq_some_iff (part : List Char) (bound : Option Int64) :
    readBound part = some bound ↔ Bound part bound := by
  constructor
  · intro read
    obtain ⟨before, after, left, right, cut⟩ := exists_blank_trim part
    unfold readBound at read
    split at read
    · rename_i nothing
      cases read
      rw [nothing, List.append_nil] at cut
      rw [cut]
      exact .missing fun c member => (List.mem_append.mp member).elim (left c) (right c)
    · obtain ⟨word, found, rfl⟩ := Option.map_eq_some_iff.mp read
      rw [cut]
      exact .number left right ((readWord_eq_some_iff _ _).mp found)
  · intro spelled
    cases spelled with
    | missing blank => rw [readBound, trim_of_blank blank]
    | number left right spelled =>
      have bare : ∀ c ∈ _, isBlank c = false := fun c member => by
        rcases spelled.mem member with rfl | rfl | digit
        · decide
        · decide
        · exact isBlank_eq_false_of_isDigit digit
      rw [readBound, trim_between left right spelled.ne_nil bare]
      split
      · exact absurd rfl spelled.ne_nil
      · rw [(readWord_eq_some_iff _ _).mpr spelled]
        rfl

theorem Bound.colon_not_mem {part : List Char} {bound : Option Int64} (spelled : Bound part bound) :
    ':' ∉ part := by
  have visible : ∀ {text : List Char}, Blank text → ':' ∉ text := fun blank member => by
    have blank_colon := blank ':' member
    rw [isBlank_colon] at blank_colon
    cases blank_colon
  cases spelled with
  | missing blank => exact visible blank
  | number left right spelled =>
    simp only [List.mem_append, not_or]
    refine ⟨⟨visible left, fun member => ?_⟩, visible right⟩
    rcases spelled.mem member with sign | sign | digit
    · cases sign
    · cases sign
    · cases digit

theorem read_of_named {text : List Char} {index : Index} (named : Named text index) :
    read text = some index := by
  cases named with
  | byte spelled =>
    rw [read, parts_of_not_mem spelled.colon_not_mem]
    dsimp only
    rw [(readBound_eq_some_iff _ _).mpr spelled]
  | range low high =>
    rw [read, parts_append_cons low.colon_not_mem, parts_of_not_mem high.colon_not_mem]
    dsimp only
    rw [(readBound_eq_some_iff _ _).mpr low, (readBound_eq_some_iff _ _).mpr high]
  | stride low high pace =>
    rw [read, parts_append_cons low.colon_not_mem, parts_append_cons high.colon_not_mem,
      parts_of_not_mem pace.colon_not_mem]
    dsimp only
    rw [(readBound_eq_some_iff _ _).mpr low, (readBound_eq_some_iff _ _).mpr high,
      (readBound_eq_some_iff _ _).mpr pace]

theorem named_of_read {text : List Char} {index : Index} (accepted : read text = some index) :
    Named text index := by
  -- The parts with colons between them are the text again, in each of the three forms.
  have joined := intercalate_parts ':' text
  unfold read at accepted
  split at accepted
  · rename_i part cut
    rw [cut] at joined
    split at accepted
    · rename_i word found
      cases accepted
      rw [← joined]
      simpa using Named.byte ((readBound_eq_some_iff _ _).mp found)
    · cases accepted
  · rename_i first second cut
    rw [cut] at joined
    split at accepted
    · rename_i start stop low high
      cases accepted
      rw [← joined]
      simpa using Named.range ((readBound_eq_some_iff _ _).mp low)
        ((readBound_eq_some_iff _ _).mp high)
    · cases accepted
  · rename_i first second third cut
    rw [cut] at joined
    split at accepted
    · rename_i start stop step low high pace
      cases accepted
      rw [← joined]
      simpa using Named.stride ((readBound_eq_some_iff _ _).mp low)
        ((readBound_eq_some_iff _ _).mp high) ((readBound_eq_some_iff _ _).mp pace)
    · cases accepted
  · cases accepted

/-- A text is read as an index exactly if it names that index, and any other text is refused with an
error that quotes the whole of it. -/
theorem parse_iff_named (text : String) :
    (∀ index, parse text = .ok index ↔ Named text.toList index) ∧
      (∀ error, parse text = .error error ↔
        error = .unreadable text ∧ ∀ index, ¬ Named text.toList index) ∧
      (Error.unreadable text).kind = .invalidIndex ∧
      (Error.unreadable text).message = "Invalid index: " ++ Text.quote text ++ "." := by
  have reads : ∀ index, read text.toList = some index ↔ Named text.toList index :=
    fun index => ⟨named_of_read, read_of_named⟩
  refine ⟨fun index => ?_, fun error => ?_, rfl, rfl⟩
  · rw [← reads, parse]
    cases read text.toList <;> simp
  · simp only [← reads, parse]
    cases read text.toList <;> simp [eq_comm]

example : parse " +07 : :-9223372036854775808\n" =
    .ok (.slice { start := some 7, step := some (-9223372036854775808) }) := by
  decide

end Index

end StoredArray
