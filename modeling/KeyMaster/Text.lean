import Mathlib.Data.String.Basic

namespace KeyMaster

/-! The string functions of Rust's standard library that the crates call. -/

/-- Unicode `White_Space`, which `str::trim` strips. -/
def isWhiteSpace (char : Char) : Bool :=
  let code := char.toNat
  (0x09 ≤ code && code ≤ 0x0D) || code == 0x20 || code == 0x85 || code == 0xA0 || code == 0x1680 ||
    (0x2000 ≤ code && code ≤ 0x200A) || code == 0x2028 || code == 0x2029 || code == 0x202F ||
    code == 0x205F || code == 0x3000

def trim (line : List Char) : List Char :=
  ((line.dropWhile isWhiteSpace).reverse.dropWhile isWhiteSpace).reverse

def trimStart (line : List Char) : List Char := line.dropWhile isWhiteSpace

def trimEnd (line : List Char) : List Char := (line.reverse.dropWhile isWhiteSpace).reverse

theorem trim_eq_self {line : List Char} (noSpace : ∀ char ∈ line, isWhiteSpace char = false) :
    trim line = line := by
  have dropped : ∀ text : List Char, (∀ char ∈ text, isWhiteSpace char = false) →
      text.dropWhile isWhiteSpace = text := by
    intro text noSpace
    cases text with
    | nil => rfl
    | cons char rest => rw [List.dropWhile_cons_of_neg (by simp [noSpace])]
  rw [trim, dropped line noSpace, dropped line.reverse (by simpa using noSpace),
    List.reverse_reverse]

theorem trim_concat (line : List Char) {space : Char} (isSpace : isWhiteSpace space = true) :
    trim (line ++ [space]) = trim line := by
  simp only [trim, List.dropWhile_append]
  cases line.dropWhile isWhiteSpace with
  | nil => simp [isSpace]
  | cons first rest => simp [isSpace, List.dropWhile_append, List.dropWhile_cons]

end KeyMaster
