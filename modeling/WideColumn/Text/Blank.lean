/-! White space as the Unicode property White_Space lists it, and the cuts made at it. -/

namespace WideColumn.Text

def isBlank (c : Char) : Bool :=
  let n := c.toNat
  (0x9 ≤ n && n ≤ 0xD) || n == 0x20 || n == 0x85 || n == 0xA0 || n == 0x1680 ||
    (0x2000 ≤ n && n ≤ 0x200A) || n == 0x2028 || n == 0x2029 || n == 0x202F ||
    n == 0x205F || n == 0x3000

def skipBlanks (text : List Char) : List Char :=
  text.dropWhile isBlank

def trim (text : List Char) : List Char :=
  (skipBlanks (skipBlanks text).reverse).reverse

/-- The blank-free stretch that `text` opens with, and the later ones in order. -/
def splitBlanks : List Char → List Char × List (List Char)
  | [] => ([], [])
  | c :: rest =>
    match splitBlanks rest with
    | (word, later) =>
      if isBlank c then ([], if word.isEmpty then later else word :: later)
      else (c :: word, later)

/-- The longest blank-free stretches of `text`, in order. -/
def words (text : List Char) : List (List Char) :=
  match splitBlanks text with
  | (word, later) => if word.isEmpty then later else word :: later

@[simp] theorem words_nil : words [] = [] := rfl

theorem words_cons_blank {c : Char} {rest : List Char} (h : isBlank c = true) :
    words (c :: rest) = words rest := by
  simp [words, splitBlanks, h]

/-- ASCII letters in lower case, all other characters as they are. -/
def lowerCase (text : List Char) : List Char :=
  text.map Char.toLower

def upperCase (text : List Char) : List Char :=
  text.map Char.toUpper

def spelled? {α : Type} (spelling : α → String) (all : List α) (text : List Char) :
    Option α :=
  all.find? fun a => (spelling a).toList == text

theorem spelling_of_spelled? {α : Type} {spelling : α → String} {all : List α}
    {text : List Char} {a : α} (h : spelled? spelling all text = some a) :
    (spelling a).toList = text := by
  simpa using List.find?_some h

end WideColumn.Text
