/-!
# Blank characters and trimming

Device ids arrive with whatever blanks the device firmware happened to print
around them, and a tenant id that consists of blanks only is a configuration
mistake.  Both rules use the same notion of a blank: the Unicode property
`White_Space`, which has twenty-five members.  The table below lists them by
range.  Separators such as U+001C to U+001F, the zero width space U+200B and
the byte order mark U+FEFF are not members, so they survive trimming and count
as content.

## Main results

* `trimChars_trimChars`: trimming is idempotent.
* `trim_trim`: the same for strings, which is what lets a device id carry the
  proof that it is already trimmed.
-/

namespace DeviceGateway.Text

/-- The Unicode property `White_Space`. -/
def isBlank (c : Char) : Bool :=
  let n := c.toNat
  (9 ≤ n && n ≤ 13) || n == 0x20 || n == 0x85 || n == 0xA0 || n == 0x1680 ||
    (0x2000 ≤ n && n ≤ 0x200A) || n == 0x2028 || n == 0x2029 || n == 0x202F ||
    n == 0x205F || n == 0x3000

/-- Drops the blanks at both ends and keeps those inside. -/
def trimChars (cs : List Char) : List Char :=
  ((cs.dropWhile isBlank).reverse.dropWhile isBlank).reverse

/-- `trimChars` on strings. -/
def trim (s : String) : String :=
  String.ofList (trimChars s.toList)

/-- A text with nothing but blanks in it, the empty one included. -/
def isBlankText (s : String) : Bool :=
  trim s == ""

/-- A list whose head is no blank is left alone by the left cut. -/
private theorem dropWhile_of_head? {cs : List Char}
    (h : ∀ c, cs.head? = some c → isBlank c = false) :
    cs.dropWhile isBlank = cs := by
  cases cs with
  | nil => rfl
  | cons c r => simp [h c rfl]

/-- The left cut leaves no blank in front. -/
private theorem not_isBlank_of_head?_dropWhile {cs : List Char} {c : Char}
    (h : (cs.dropWhile isBlank).head? = some c) : isBlank c = false := by
  have hcut := List.head?_dropWhile_not isBlank cs
  rwa [h] at hcut

/-- Trimmed text starts with no blank. -/
theorem head?_trimChars {cs : List Char} {c : Char}
    (h : (trimChars cs).head? = some c) : isBlank c = false := by
  obtain ⟨cut, hcut⟩ :=
    List.dropWhile_suffix isBlank (l := (cs.dropWhile isBlank).reverse)
  have hsplit : cs.dropWhile isBlank = trimChars cs ++ cut.reverse := by
    simpa [trimChars] using congrArg List.reverse hcut.symm
  have hhead : (cs.dropWhile isBlank).head? = some c := by
    rw [hsplit, List.head?_append, h, Option.some_or]
  exact not_isBlank_of_head?_dropWhile hhead

/-- Trimming what is trimmed changes nothing. -/
theorem trimChars_trimChars (cs : List Char) :
    trimChars (trimChars cs) = trimChars cs := by
  have hleft : (trimChars cs).dropWhile isBlank = trimChars cs :=
    dropWhile_of_head? fun _ h => head?_trimChars h
  have hright : (trimChars cs).reverse.dropWhile isBlank =
      (trimChars cs).reverse := by
    refine dropWhile_of_head? fun c h => ?_
    rw [trimChars, List.reverse_reverse] at h
    exact not_isBlank_of_head?_dropWhile h
  rw [trimChars, hleft, hright, List.reverse_reverse]

theorem trim_trim (s : String) : trim (trim s) = trim s := by
  simp [trim, trimChars_trimChars]

end DeviceGateway.Text
