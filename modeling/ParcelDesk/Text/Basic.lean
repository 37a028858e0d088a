/-!
Blanks at the ends of a text, comparison without regard to case, and parts between separators. Blank
means the Unicode property White_Space, so U+0085, U+00A0 and the spaces of the U+2000 block count
while U+200B and U+FEFF do not. Case is disregarded against words that are written in ASCII.
-/

namespace ParcelDesk.Text

/-- The characters with the property White_Space. -/
def isBlank (c : Char) : Bool :=
  let n := c.toNat
  (0x09 ≤ n && n ≤ 0x0D) || n == 0x20 || n == 0x85 || n == 0xA0 || n == 0x1680 ||
    (0x2000 ≤ n && n ≤ 0x200A) || n == 0x2028 || n == 0x2029 || n == 0x202F || n == 0x205F ||
    n == 0x3000

def trimStart (cs : List Char) : List Char := cs.dropWhile isBlank

def trimEnd (cs : List Char) : List Char := (cs.reverse.dropWhile isBlank).reverse

def trimmed (cs : List Char) : List Char := trimEnd (trimStart cs)

/-- The text without the blanks at both ends. -/
def trim (s : String) : String := String.ofList (trimmed s.toList)

/-- Some character of the text is not blank. -/
def notBlank (s : String) : Bool := s.toList.any fun c => !isBlank c

/-- An absent text and a blank text name nothing; any other names its trimmed self. -/
def named (s : Option String) : Option String :=
  s.bind fun t => if notBlank t then some (trim t) else none

/-- Lower case, as far as a comparison with an ASCII word can tell: outside ASCII only the Kelvin
sign has a lower case that is one ASCII letter. -/
def foldChar (c : Char) : Char := if c == '\u212A' then 'k' else c.toLower

def fold (s : String) : String := String.ofList (s.toList.map foldChar)

/-- Equality up to the case of ASCII letters. -/
def sameIgnoringAsciiCase (s t : String) : Bool :=
  s.toList.map Char.toLower == t.toList.map Char.toLower

def splitOn (separator : Char) : List Char → List (List Char)
  | [] => [[]]
  | c :: cs =>
    if c = separator then [] :: splitOn separator cs
    else
      match splitOn separator cs with
      | [] => [[c]]
      | part :: parts => (c :: part) :: parts

theorem splitOn_ne_nil (separator : Char) (cs : List Char) : splitOn separator cs ≠ [] := by
  cases cs with
  | nil => simp [splitOn]
  | cons c cs => unfold splitOn; split <;> (try split) <;> simp

theorem splitOn_append (separator : Char) (pre post : List Char) :
    splitOn separator (pre ++ separator :: post) =
      splitOn separator pre ++ splitOn separator post := by
  induction pre with
  | nil => simp [splitOn]
  | cons c cs ih =>
    rw [List.cons_append, splitOn, splitOn]
    split
    · rw [ih, List.cons_append]
    · rw [ih]
      cases hparts : splitOn separator cs with
      | nil => exact absurd hparts (splitOn_ne_nil separator cs)
      | cons part parts => rfl

theorem splitOn_of_notMem {separator : Char} {cs : List Char} (h : separator ∉ cs) :
    splitOn separator cs = [cs] := by
  induction cs with
  | nil => rfl
  | cons c cs ih =>
    rw [List.mem_cons, not_or] at h
    rw [splitOn, if_neg fun heq => h.1 heq.symm, ih h.2]

/-- The text before the last separator, and the text after it. -/
def splitLast? (separator : Char) (cs : List Char) : Option (List Char × List Char) :=
  if cs.contains separator then
    let last := (cs.reverse.takeWhile (· ≠ separator)).reverse
    some (cs.take (cs.length - last.length - 1), last)
  else none

theorem takeWhile_ne_append {separator : Char} {pre : List Char} (h : separator ∉ pre)
    (post : List Char) : (pre ++ separator :: post).takeWhile (· ≠ separator) = pre := by
  rw [List.takeWhile_append_of_pos]
  · simp
  · intro c hc
    have hne : c ≠ separator := fun heq => h (heq ▸ hc)
    simpa using hne

theorem afterLast_append {separator : Char} {post : List Char} (h : separator ∉ post)
    (pre : List Char) :
    ((pre ++ separator :: post).reverse.takeWhile (· ≠ separator)).reverse = post := by
  have hback : separator ∉ post.reverse := fun hmem => h (List.mem_reverse.mp hmem)
  rw [List.reverse_append, List.reverse_cons, List.append_assoc, List.singleton_append,
    takeWhile_ne_append hback, List.reverse_reverse]

theorem splitLast?_append (separator : Char) (pre post : List Char) (h : separator ∉ post) :
    splitLast? separator (pre ++ separator :: post) = some (pre, post) := by
  have hlen : (pre ++ separator :: post).length - post.length - 1 = pre.length := by
    simp only [List.length_append, List.length_cons]
    omega
  have hmem : (pre ++ separator :: post).contains separator = true := by simp
  unfold splitLast?
  simp only [afterLast_append h, hlen, hmem, ↓reduceIte, List.take_left]

/-- A text with a separator in it has a last one. -/
theorem exists_last {separator : Char} {cs : List Char} (h : separator ∈ cs) :
    ∃ pre post, cs = pre ++ separator :: post ∧ separator ∉ post := by
  obtain ⟨back, front, hsplit, hlast⟩ := List.eq_append_cons_of_mem (List.mem_reverse.mpr h)
  refine ⟨front.reverse, back.reverse, ?_, by simpa using hlast⟩
  simpa using congrArg List.reverse hsplit

end ParcelDesk.Text
