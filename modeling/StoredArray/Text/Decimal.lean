namespace StoredArray

namespace Text

/-- The characters with the Unicode property White_Space. -/
def isBlank (c : Char) : Bool :=
  let n := c.toNat
  (9 ≤ n && n ≤ 13) || n == 0x20 || n == 0x85 || n == 0xA0 || n == 0x1680 ||
    (0x2000 ≤ n && n ≤ 0x200A) || n == 0x2028 || n == 0x2029 || n == 0x202F || n == 0x205F ||
    n == 0x3000

def trim (text : List Char) : List Char :=
  ((text.dropWhile isBlank).reverse.dropWhile isBlank).reverse

def parts (separator : Char) : List Char → List (List Char)
  | [] => [[]]
  | c :: rest =>
    if c = separator then [] :: parts separator rest
    else match parts separator rest with
      | [] => [[c]]
      | part :: others => (c :: part) :: others

theorem parts_ne_nil (separator : Char) (text : List Char) : parts separator text ≠ [] := by
  induction text with
  | nil => simp [parts]
  | cons c rest _ => grind [parts]

theorem intercalate_parts (separator : Char) (text : List Char) :
    [separator].intercalate (parts separator text) = text := by
  induction text with
  | nil => rfl
  | cons c rest step =>
    have some_part := parts_ne_nil separator rest
    match cut : parts separator rest with
    | [] => exact absurd cut some_part
    | part :: others =>
      by_cases same : c = separator
      · cases others <;> simp_all [parts, List.intercalate]
      · cases others <;> simp_all [parts, List.intercalate]

end Text

namespace Decimal

def natural (n : Nat) : List Char :=
  Nat.toDigits 10 n

def integer (n : Int) : List Char :=
  if n < 0 then '-' :: natural n.natAbs else natural n.natAbs

def text (n : Nat) : String :=
  String.ofList (natural n)

def word (n : Int64) : String :=
  String.ofList (integer n.toInt)

def readNatural (digits : List Char) : Option Nat :=
  if digits ≠ [] ∧ digits.all Char.isDigit then some (Nat.ofDigitChars 10 digits 0) else none

def readInteger : List Char → Option Int
  | '+' :: digits => (readNatural digits).map Int.ofNat
  | '-' :: digits => (readNatural digits).map fun n => -Int.ofNat n
  | digits => (readNatural digits).map Int.ofNat

def readWord (digits : List Char) : Option Int64 :=
  match readInteger digits with
  | none => none
  | some n =>
    if -0x8000000000000000 ≤ n ∧ n < 0x8000000000000000 then some (Int64.ofInt n) else none

theorem natural_ne_nil (n : Nat) : natural n ≠ [] :=
  Nat.toDigits_ne_nil

theorem all_isDigit_natural (n : Nat) : (natural n).all Char.isDigit := by
  rw [List.all_eq_true]
  exact fun c hc => Nat.isDigit_of_mem_toDigits (by decide) (by decide) hc

theorem readNatural_natural (n : Nat) : readNatural (natural n) = some n := by
  rw [readNatural, if_pos ⟨natural_ne_nil n, all_isDigit_natural n⟩, natural,
    Nat.ofDigitChars_toDigits (by decide) (by decide)]

theorem readInteger_natural (n : Nat) : readInteger (natural n) = some (n : Int) := by
  have digits := all_isDigit_natural n
  have read := readNatural_natural n
  unfold readInteger
  split
  · next rest eq => rw [eq] at digits; simp at digits
  · next rest eq => rw [eq] at digits; simp at digits
  · rw [read]; rfl

theorem readInteger_integer (n : Int) : readInteger (integer n) = some n := by
  unfold integer
  split
  · simp only [readInteger, readNatural_natural, Option.map_some, Option.some.injEq]
    grind
  · rw [readInteger_natural]; grind

end Decimal

end StoredArray
