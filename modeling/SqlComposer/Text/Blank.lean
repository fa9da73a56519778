/-!
Blank characters and the text around them. A character is blank when Unicode gives it the
property White_Space; twenty-five characters have it.
-/

namespace SqlComposer.Text

def isBlank (c : Char) : Bool :=
  let code := c.toNat
  (0x09 ≤ code && code ≤ 0x0d) || code == 0x20 || code == 0x85 || code == 0xa0 ||
    code == 0x1680 || (0x2000 ≤ code && code ≤ 0x200a) || code == 0x2028 || code == 0x2029 ||
    code == 0x202f || code == 0x205f || code == 0x3000

def trimStart (text : List Char) : List Char :=
  text.dropWhile isBlank

def trim (text : List Char) : List Char :=
  (trimStart (trimStart text).reverse).reverse

def allBlank (text : String) : Bool :=
  text.toList.all isBlank

theorem trimStart_eq_self {c : Char} {rest : List Char} (solid : isBlank c = false) :
    trimStart (c :: rest) = c :: rest := by
  rw [trimStart, List.dropWhile_cons_of_neg (by simp [solid])]

theorem trimStart_append {before : List Char} (blank : before.all isBlank = true)
    (text : List Char) : trimStart (before ++ text) = trimStart text :=
  List.dropWhile_append_of_pos (List.all_eq_true.mp blank)

theorem trim_surrounded {before text after : List Char} (nonempty : text ≠ [])
    (solid : ∀ c ∈ text, isBlank c = false) (blankBefore : before.all isBlank = true)
    (blankAfter : after.all isBlank = true) : trim (before ++ text ++ after) = text := by
  have front : trimStart (before ++ text ++ after) = text ++ after := by
    obtain ⟨c, rest, rfl⟩ := List.exists_cons_of_ne_nil nonempty
    rw [List.append_assoc, trimStart_append blankBefore]
    exact trimStart_eq_self (solid c (by simp))
  have back : trimStart (text ++ after).reverse = text.reverse := by
    have reversed : text.reverse ≠ [] := by simpa using nonempty
    rw [List.reverse_append, trimStart_append (by simpa using blankAfter)]
    obtain ⟨c, rest, same⟩ := List.exists_cons_of_ne_nil reversed
    rw [same]
    exact trimStart_eq_self (solid c (List.mem_reverse.mp (by simp [same])))
  rw [trim, front, back, List.reverse_reverse]

end SqlComposer.Text
