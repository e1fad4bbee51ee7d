import Mathlib.Data.List.Basic

/-!
# Base64

Three bytes are four groups of six bits.  The encoder writes the groups in the alphabet of URLs,
whose last two characters are `-` and `_`, without padding; the decoder is `atob` of browsers, which
does without padding too but takes the standard alphabet, whose last two are `+` and `/`, and throws
on every other character.

`atob_encodeUrl`: `atob` reads the bytes back where none of the groups is one of the last two, and
throws otherwise.  It makes a character of each byte, so a text that was written in UTF-8 comes back
with `byteChars c` in place of each character `c` (`atob_text`): unchanged only if it is ASCII.
-/

namespace Biblio.Base64

/-- The alphabet of URLs. -/
def urlAlphabet : List Char :=
  "ABCDEFGHIJKLMNOPQRSTUVWXYZabcdefghijklmnopqrstuvwxyz0123456789-_".toList

def urlChar (x : ℕ) : Char := urlAlphabet.getD x 'A'

/-- The groups of six bits of a list of bytes. -/
def sextets : List ℕ → List ℕ
  | [] => []
  | [a] => [a / 4, a % 4 * 16]
  | [a, b] => [a / 4, a % 4 * 16 + b / 16, b % 16 * 4]
  | a :: b :: c :: l =>
    a / 4 :: (a % 4 * 16 + b / 16) :: (b % 16 * 4 + c / 64) :: c % 64 :: sextets l

/-- The base64 text of bytes for URLs, without padding. -/
def encodeUrl (bytes : List UInt8) : List Char := (sextets (bytes.map UInt8.toNat)).map urlChar

/-- The value of a character of the standard alphabet. -/
def value (c : Char) : Option ℕ :=
  if 'A' ≤ c ∧ c ≤ 'Z' then some (c.toNat - 65)
  else if 'a' ≤ c ∧ c ≤ 'z' then some (c.toNat - 71)
  else if '0' ≤ c ∧ c ≤ '9' then some (c.toNat + 4)
  else if c = '+' then some 62
  else if c = '/' then some 63
  else none

/-- The bytes of groups of six bits; the bits left over at the end are dropped. -/
def bytes : List ℕ → List ℕ
  | [] => []
  | [_] => []
  | [w, x] => [w * 4 + x / 16]
  | [w, x, y] => [w * 4 + x / 16, x % 16 * 16 + y / 4]
  | w :: x :: y :: z :: l =>
    (w * 4 + x / 16) :: (x % 16 * 16 + y / 4) :: (y % 4 * 64 + z) :: bytes l

/-- White space that `atob` removes. -/
def blank (c : Char) : Bool := c == ' ' || c == '\t' || c == '\n' || c == '\x0c' || c == '\r'

/-- The text without the one or two `=` that it may end with. -/
def unpadded (cs : List Char) : List Char :=
  match cs.reverse with
  | '=' :: '=' :: rest => rest.reverse
  | '=' :: rest => rest.reverse
  | _ => cs

/-- `atob`: a character for each byte, or `none` for an `InvalidCharacterError`. -/
def atob (cs : List Char) : Option (List Char) :=
  let data := cs.filter fun c => !blank c
  let data := if data.length % 4 = 0 then unpadded data else data
  if data.length % 4 = 1 then none
  else (data.mapM value).map fun xs => (bytes xs).map Char.ofNat

/-! ### Groups of six bits -/

theorem sextets_lt {l : List ℕ} (h : ∀ b ∈ l, b < 256) : ∀ x ∈ sextets l, x < 64 := by
  fun_induction sextets l with
  | case1 => simp
  | case2 a =>
    have ha := h a (by simp)
    simp only [List.mem_cons, List.not_mem_nil, or_false]
    omega
  | case3 a b =>
    have ha := h a (by simp)
    have hb := h b (by simp)
    simp only [List.mem_cons, List.not_mem_nil, or_false]
    omega
  | case4 a b c l ih =>
    have ha := h a (by simp)
    have hb := h b (by simp)
    have hc := h c (by simp)
    intro x hx
    simp only [List.mem_cons] at hx
    rcases hx with hx | hx | hx | hx | hx
    · omega
    · omega
    · omega
    · omega
    · exact ih (fun d hd => h d (by simp [hd])) x hx

theorem length_sextets (l : List ℕ) : (sextets l).length % 4 ≠ 1 := by
  fun_induction sextets l with
  | case1 => simp
  | case2 a => simp
  | case3 a b => simp
  | case4 a b c l ih =>
    simp only [List.length_cons]
    omega

/-- The bytes of the groups are those the groups were made of. -/
theorem bytes_sextets {l : List ℕ} (h : ∀ b ∈ l, b < 256) : bytes (sextets l) = l := by
  fun_induction sextets l with
  | case1 => rfl
  | case2 a =>
    have ha := h a (by simp)
    simp only [bytes, List.cons.injEq, and_true]
    omega
  | case3 a b =>
    have ha := h a (by simp)
    have hb := h b (by simp)
    simp only [bytes, List.cons.injEq, and_true]
    omega
  | case4 a b c l ih =>
    have ha := h a (by simp)
    have hb := h b (by simp)
    have hc := h c (by simp)
    simp only [bytes, ih fun d hd => h d (by simp [hd]), List.cons.injEq, and_true]
    omega

/-! ### Characters -/

/-- `atob` knows the characters of the alphabet of URLs but the last two. -/
theorem value_urlChar {x : ℕ} (h : x < 64) :
    value (urlChar x) = if x < 62 then some x else none := by
  have htable : ∀ x < 64, value (urlChar x) = if x < 62 then some x else none := by
    decide +kernel
  exact htable x h

theorem urlChar_ne {x : ℕ} (h : x < 64) :
    blank (urlChar x) = false ∧ urlChar x ≠ '=' ∧ urlChar x ≠ '.' := by
  have htable : ∀ x < 64, blank (urlChar x) = false ∧ urlChar x ≠ '=' ∧ urlChar x ≠ '.' := by
    decide +kernel
  exact htable x h

theorem mapM_value_urlChar {xs : List ℕ} (h : ∀ x ∈ xs, x < 64) :
    (xs.map urlChar).mapM value = if ∀ x ∈ xs, x < 62 then some xs else none := by
  induction xs with
  | nil => rfl
  | cons x xs ih =>
    have hx := value_urlChar (h x (List.mem_cons_self ..))
    have hxs := ih fun y hy => h y (List.mem_cons_of_mem _ hy)
    rw [List.map_cons, List.mapM_cons, hx, hxs]
    have hcons : (∀ y ∈ x :: xs, y < 62) ↔ x < 62 ∧ ∀ y ∈ xs, y < 62 := List.forall_mem_cons
    by_cases hlt : x < 62
    · by_cases hall : ∀ y ∈ xs, y < 62
      · rw [if_pos hlt, if_pos hall, if_pos (hcons.mpr ⟨hlt, hall⟩)]
        rfl
      · rw [if_pos hlt, if_neg hall, if_neg fun h => hall (hcons.mp h).2]
        rfl
    · rw [if_neg hlt, if_neg fun h => hlt (hcons.mp h).1]
      rfl

theorem unpadded_of_not_mem {cs : List Char} (h : '=' ∉ cs) : unpadded cs = cs := by
  have hrev : ∀ rest, cs.reverse ≠ '=' :: rest := by
    intro rest heq
    exact h (List.mem_reverse.mp (heq ▸ List.mem_cons_self))
  unfold unpadded
  split
  · next rest heq => exact absurd heq (hrev _)
  · next rest heq => exact absurd heq (hrev _)
  · rfl

theorem mem_encodeUrl {bs : List UInt8} {c : Char} (h : c ∈ encodeUrl bs) :
    ∃ x < 64, urlChar x = c := by
  obtain ⟨x, hx, rfl⟩ := List.mem_map.mp h
  refine ⟨x, sextets_lt (fun b hb => ?_) x hx, rfl⟩
  obtain ⟨u, -, rfl⟩ := List.mem_map.mp hb
  exact u.toNat_lt

/-- **Decoding.**  `atob` reads a text for URLs back exactly if it has neither `-` nor `_`. -/
theorem atob_encodeUrl (bs : List UInt8) :
    atob (encodeUrl bs) = if ∀ x ∈ sextets (bs.map UInt8.toNat), x < 62 then
      some (bs.map fun b => Char.ofNat b.toNat) else none := by
  have hbytes : ∀ b ∈ bs.map UInt8.toNat, b < 256 := by
    intro b hb
    obtain ⟨u, -, rfl⟩ := List.mem_map.mp hb
    exact u.toNat_lt
  have hfilter : (encodeUrl bs).filter (fun c => !blank c) = encodeUrl bs := by
    rw [List.filter_eq_self]
    intro c hc
    obtain ⟨x, hx, rfl⟩ := mem_encodeUrl hc
    rw [(urlChar_ne hx).1, Bool.not_false]
  have hpad : unpadded (encodeUrl bs) = encodeUrl bs := by
    refine unpadded_of_not_mem fun hc => ?_
    obtain ⟨x, hx, heq⟩ := mem_encodeUrl hc
    exact (urlChar_ne hx).2.1 heq
  have hlength : ¬ (encodeUrl bs).length % 4 = 1 := by
    rw [encodeUrl, List.length_map]
    exact length_sextets _
  simp only [atob, hfilter, hpad, ite_self, if_neg hlength]
  rw [encodeUrl, mapM_value_urlChar (sextets_lt hbytes)]
  split_ifs
  · rw [Option.map_some, bytes_sextets hbytes, List.map_map]
    rfl
  · rfl

/-! ### Texts -/

/-- The bytes of a character in UTF-8, each as a character. -/
def byteChars (c : Char) : List Char := (String.utf8EncodeChar c).map fun b => Char.ofNat b.toNat

theorem toNat_ofNat_byte {n : ℕ} (h : n < 256) : (Char.ofNat n).toNat = n := by
  have hvalid : n.isValidChar := Or.inl (by omega)
  rw [Char.ofNat, dif_pos hvalid]
  rfl

theorem byteChars_of_lt {c : Char} (h : c.toNat < 0x80) : byteChars c = [c] := by
  have hbyte : String.utf8EncodeChar c = [UInt8.ofNat c.toNat] := if_pos (by
    show c.toNat ≤ 0x7f
    omega)
  rw [byteChars, hbyte, List.map_singleton, UInt8.toNat_ofNat_of_lt' (Nat.lt_trans h (by decide)),
    Char.ofNat_toNat]

/-- Every other character has several bytes, and none of them is one of ASCII. -/
theorem byteChars_of_le {c : Char} (h : 0x80 ≤ c.toNat) :
    1 < (byteChars c).length ∧ ∀ d ∈ byteChars c, 0x80 ≤ d.toNat ∧ d.toNat < 0x100 := by
  have hbyte : ∀ b ∈ String.utf8EncodeChar c, 0x80 ≤ b.toNat := by
    have hmod : ∀ n, 0x80 ≤ n → n < 256 → 0x80 ≤ (UInt8.ofNat n).toNat := by
      intro n hle hlt
      rwa [UInt8.toNat_ofNat_of_lt' hlt]
    change 0x80 ≤ c.val.toNat at h
    unfold String.utf8EncodeChar
    dsimp only
    rw [if_neg (by omega)]
    intro b hb
    split_ifs at hb <;> simp only [List.mem_cons, List.not_mem_nil, or_false] at hb
    · rcases hb with rfl | rfl <;> exact hmod _ (by omega) (by omega)
    · rcases hb with rfl | rfl | rfl <;> exact hmod _ (by omega) (by omega)
    · rcases hb with rfl | rfl | rfl | rfl <;> exact hmod _ (by omega) (by omega)
  constructor
  · have hsize : c.utf8Size ≠ 1 := by
      rw [ne_eq, Char.utf8Size_eq_one_iff]
      intro hle
      have hle := UInt32.le_iff_toNat_le.mp hle
      change c.toNat ≤ 127 at hle
      omega
    have hpos := c.utf8Size_pos
    rw [byteChars, List.length_map, String.length_utf8EncodeChar]
    omega
  · intro d hd
    obtain ⟨b, hb, rfl⟩ := List.mem_map.mp hd
    rw [toNat_ofNat_byte b.toNat_lt]
    exact ⟨hbyte b hb, b.toNat_lt⟩

/-- A text that was written in UTF-8. -/
theorem atob_text (cs : List Char) :
    atob (encodeUrl (cs.flatMap String.utf8EncodeChar))
      = if ∀ x ∈ sextets ((cs.flatMap String.utf8EncodeChar).map UInt8.toNat), x < 62 then
          some (cs.flatMap byteChars) else none := by
  have hchars : (cs.flatMap String.utf8EncodeChar).map (fun b => Char.ofNat b.toNat)
      = cs.flatMap byteChars := List.map_flatMap
  rw [atob_encodeUrl, hchars]

end Biblio.Base64
