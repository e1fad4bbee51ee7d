import Mathlib.Data.List.Infix

/-!
# The predicate `LIKE`

A pattern is read once into tokens: `%` stands for any string, `_` for any character, a backslash
takes the character after it literally (at the end of the pattern, itself), and every other
character stands for itself.  Characters are compared by a key, the case folding of the collation,
one at a time.

A pattern `%s%` of a string without special characters is the search for a substring
(`like_pattern_iff`).  For any other string `sample s` tells the two apart: it is the shortest value
that the pattern matches (`like_sample`, `length_sample_le`), and does not contain the string
(`literal_of_contains`).
-/

namespace Biblio.Like

/-- What a pattern is made of. -/
inductive Token where
  | any
  | one
  | char (c : Char)
  deriving DecidableEq

/-- The tokens of a pattern. -/
def tokens : List Char → List Token
  | [] => []
  | ['\\'] => [.char '\\']
  | '\\' :: c :: p => .char c :: tokens p
  | '%' :: p => .any :: tokens p
  | '_' :: p => .one :: tokens p
  | c :: p => .char c :: tokens p

variable {κ : Type} [DecidableEq κ] (fold : Char → κ)

/-- A value matches the tokens of a pattern. -/
def matchTokens : List Token → List Char → Bool
  | [], v => v.isEmpty
  | .any :: ts, v => v.tails.any (matchTokens ts)
  | .one :: _, [] => false
  | .one :: ts, _ :: v => matchTokens ts v
  | .char _ :: _, [] => false
  | .char c :: ts, x :: v => fold x == fold c && matchTokens ts v

/-- `value LIKE pattern`. -/
def like (value pattern : String) : Bool := matchTokens fold (tokens pattern.toList) value.toList

/-- A character with a meaning of its own in patterns. -/
def special (c : Char) : Bool := c == '%' || c == '_' || c == '\\'

/-- The pattern that a search for a string uses. -/
def pattern (s : String) : String := "%" ++ s ++ "%"

/-- A value contains a string, up to folding. -/
def Contains (value s : String) : Prop := s.toList.map fold <:+: value.toList.map fold

instance (value s : String) : Decidable (Contains fold value s) :=
  inferInstanceAs (Decidable (_ <:+: _))

/-! ### Tokens -/

theorem toList_pattern (s : String) : (pattern s).toList = '%' :: (s.toList ++ ['%']) := by
  simp [pattern]

theorem tokens_percent (p : List Char) : tokens ('%' :: p) = .any :: tokens p := by
  simp [tokens]

theorem tokens_cons_of_not_special {c : Char} (h : special c = false) (p : List Char) :
    tokens (c :: p) = .char c :: tokens p := by
  simp only [special, Bool.or_eq_false_iff, beq_eq_false_iff_ne] at h
  rw [tokens]
  · exact fun hc _ => h.2 hc
  · exact fun _ _ hc _ => h.2 hc
  · exact h.1.1
  · exact h.1.2

/-- Before the final `%`, a string without special characters stands for itself. -/
theorem tokens_of_literal {s : List Char} (h : ∀ c ∈ s, special c = false) :
    tokens (s ++ ['%']) = s.map .char ++ [.any] := by
  induction s with
  | nil => simp [tokens]
  | cons c s ih =>
    have hc : special c = false := h c (List.mem_cons_self ..)
    have htail := ih fun d hd => h d (List.mem_cons_of_mem _ hd)
    rw [List.cons_append, tokens_cons_of_not_special hc, htail]
    rfl

/-! ### Matching -/

theorem matchTokens_any_iff {ts : List Token} {v : List Char} :
    matchTokens fold (.any :: ts) v = true ↔ ∃ w, w <:+ v ∧ matchTokens fold ts w = true := by
  simp [matchTokens]

theorem matchTokens_any_cons {ts : List Token} {c : Char} {v : List Char} :
    matchTokens fold (.any :: ts) (c :: v)
      = (matchTokens fold ts (c :: v) || matchTokens fold (.any :: ts) v) := by
  simp [matchTokens]

/-- Before a character, the characters other than that are passed over. -/
theorem matchTokens_any_skip {d : Char} {ts : List Token} {u : List Char}
    (h : ∀ c ∈ u, fold c ≠ fold d) (v : List Char) :
    matchTokens fold (.any :: .char d :: ts) (u ++ v)
      = matchTokens fold (.any :: .char d :: ts) v := by
  induction u with
  | nil => rfl
  | cons c u ih =>
    have hc : matchTokens fold (.char d :: ts) (c :: (u ++ v)) = false := by
      rw [matchTokens, beq_eq_false_iff_ne.mpr (h c (List.mem_cons_self ..)), Bool.false_and]
    rw [List.cons_append, matchTokens_any_cons, hc, Bool.false_or,
      ih fun x hx => h x (List.mem_cons_of_mem _ hx)]

/-- Characters, and then anything: a prefix. -/
theorem matchTokens_chars_iff {cs v : List Char} :
    matchTokens fold (cs.map .char ++ [.any]) v = true ↔ cs.map fold <+: v.map fold := by
  induction cs generalizing v with
  | nil =>
    simp only [List.map_nil, List.nil_append, matchTokens_any_iff, List.nil_prefix, iff_true]
    exact ⟨[], List.nil_suffix, rfl⟩
  | cons c cs ih =>
    cases v with
    | nil => simp [matchTokens]
    | cons x v =>
      simp only [List.map_cons, List.cons_append, matchTokens, Bool.and_eq_true, beq_iff_eq, ih,
        List.cons_prefix_cons]
      exact and_congr_left fun _ => eq_comm

/-- **Literal strings.**  Without special characters, the pattern is the search for a substring. -/
theorem like_pattern_iff {s : String} (h : ∀ c ∈ s.toList, special c = false) (value : String) :
    like fold value (pattern s) = true ↔ Contains fold value s := by
  rw [like, toList_pattern, tokens_percent, tokens_of_literal h, matchTokens_any_iff, Contains,
    List.infix_iff_prefix_suffix]
  constructor
  · rintro ⟨w, hw, hmatch⟩
    exact ⟨w.map fold, (matchTokens_chars_iff fold).mp hmatch, hw.map fold⟩
  · rintro ⟨_, hpre, u, hu⟩
    obtain ⟨u', w, hv, -, rfl⟩ := List.map_eq_append_iff.mp hu.symm
    exact ⟨w, ⟨u', hv.symm⟩, (matchTokens_chars_iff fold).mpr hpre⟩

/-! ### Samples -/

/-- The shortest value that tokens match. -/
def sampleTokens : List Token → List Char
  | [] => []
  | .any :: ts => sampleTokens ts
  | .one :: ts => 'a' :: sampleTokens ts
  | .char c :: ts => c :: sampleTokens ts

/-- The sample of a string: between the two `%` of its pattern, of which a final backslash takes
the second one. -/
def sampleOf (s : List Char) : List Char := sampleTokens (tokens (s ++ ['%']))

/-- The shortest value that the pattern of a string matches. -/
def sample (s : String) : String := String.ofList (sampleOf s.toList)

theorem matchTokens_sampleTokens (ts : List Token) :
    matchTokens fold ts (sampleTokens ts) = true := by
  induction ts with
  | nil => rfl
  | cons t ts ih =>
    cases t with
    | any => exact (matchTokens_any_iff fold).mpr ⟨_, List.suffix_rfl, ih⟩
    | one => exact ih
    | char c =>
      rw [sampleTokens, matchTokens, beq_self_eq_true, Bool.true_and]
      exact ih

theorem length_sampleTokens_le {ts : List Token} {v : List Char}
    (h : matchTokens fold ts v = true) : (sampleTokens ts).length ≤ v.length := by
  induction ts generalizing v with
  | nil => exact Nat.zero_le _
  | cons t ts ih =>
    cases t with
    | any =>
      obtain ⟨w, hw, hmatch⟩ := (matchTokens_any_iff fold).mp h
      exact (ih hmatch).trans hw.length_le
    | one =>
      cases v with
      | nil => cases h
      | cons x v => exact Nat.succ_le_succ (ih h)
    | char c =>
      cases v with
      | nil => cases h
      | cons x v =>
        rw [matchTokens, Bool.and_eq_true] at h
        exact Nat.succ_le_succ (ih h.2)

/-- The sample is matched by the pattern. -/
theorem like_sample (s : String) : like fold (sample s) (pattern s) = true := by
  rw [like, toList_pattern, tokens_percent, sample, String.toList_ofList]
  exact matchTokens_sampleTokens fold (.any :: tokens (s.toList ++ ['%']))

/-- No shorter value is. -/
theorem length_sample_le {value s : String} (h : like fold value (pattern s) = true) :
    (sample s).length ≤ value.length := by
  rw [like, toList_pattern, tokens_percent] at h
  have hle := length_sampleTokens_le fold h
  rw [sample, ← String.length_toList, ← String.length_toList, String.toList_ofList]
  exact hle

/-- Induction on a string as a pattern is read. -/
theorem pattern_induction {P : List Char → Prop} (nil : P []) (last : P ['\\'])
    (escape : ∀ c s, P s → P ('\\' :: c :: s)) (any : ∀ s, P s → P ('%' :: s))
    (one : ∀ s, P s → P ('_' :: s)) (char : ∀ c s, special c = false → P s → P (c :: s))
    (s : List Char) : P s := by
  induction s using tokens.induct with
  | case1 => exact nil
  | case2 => exact last
  | case3 c s ih => exact escape c s ih
  | case4 s ih => exact any s ih
  | case5 s ih => exact one s ih
  | case6 c s hlast hescape hany hone ih =>
    refine char c s ?_ ih
    have hc : c ≠ '\\' := by
      rintro rfl
      cases s with
      | nil => exact hlast rfl rfl
      | cons d s => exact hescape d s rfl rfl
    simp only [special, Bool.or_eq_false_iff, beq_eq_false_iff_ne]
    exact ⟨⟨hany, hone⟩, hc⟩

theorem sampleOf_nil : sampleOf [] = [] := by
  simp [sampleOf, tokens, sampleTokens]

/-- A final backslash takes the `%` that ends the pattern. -/
theorem sampleOf_last : sampleOf ['\\'] = ['%'] := by
  simp [sampleOf, tokens, sampleTokens]

theorem sampleOf_escape (c : Char) (s : List Char) :
    sampleOf ('\\' :: c :: s) = c :: sampleOf s := by
  simp [sampleOf, tokens, sampleTokens]

theorem sampleOf_any (s : List Char) : sampleOf ('%' :: s) = sampleOf s := by
  simp [sampleOf, tokens, sampleTokens]

theorem sampleOf_one (s : List Char) : sampleOf ('_' :: s) = 'a' :: sampleOf s := by
  simp [sampleOf, tokens, sampleTokens]

theorem sampleOf_char {c : Char} (h : special c = false) (s : List Char) :
    sampleOf (c :: s) = c :: sampleOf s := by
  rw [sampleOf, List.cons_append, tokens_cons_of_not_special h]
  rfl

/-- The sample is no longer than the string. -/
theorem length_sampleOf_le (s : List Char) : (sampleOf s).length ≤ s.length := by
  induction s using pattern_induction with
  | nil => rw [sampleOf_nil]
  | last =>
    rw [sampleOf_last]
    exact Nat.le_refl _
  | escape c s ih =>
    rw [sampleOf_escape, List.length_cons, List.length_cons, List.length_cons]
    omega
  | any s ih =>
    rw [sampleOf_any, List.length_cons]
    omega
  | one s ih =>
    rw [sampleOf_one, List.length_cons, List.length_cons]
    omega
  | char c s hc ih =>
    rw [sampleOf_char hc, List.length_cons, List.length_cons]
    omega

omit [DecidableEq κ] in
/-- A value that contains a string is no shorter than its sample either. -/
theorem length_sample_le_of_contains {value s : String} (h : Contains fold value s) :
    (sample s).length ≤ value.length := by
  have hle := h.length_le
  rw [List.length_map, List.length_map, String.length_toList, String.length_toList] at hle
  have hsample := length_sampleOf_le s.toList
  rw [String.length_toList] at hsample
  rw [sample, ← String.length_toList, String.toList_ofList]
  exact hsample.trans hle

/-! ### Collations -/

/-- A collation compares characters by a key.  Of the signs with a meaning in patterns it
distinguishes `_` from a letter, and `%` from the backslash. -/
structure Collation where
  fold : Char → ℕ
  fold_letter : fold 'a' ≠ fold '_'
  fold_percent : fold '%' ≠ fold '\\'

variable (coll : Collation)

/-- A string whose sample is the string itself, up to folding, has no special character. -/
theorem literal_of_map_eq (s : List Char) (h : (sampleOf s).map coll.fold = s.map coll.fold) :
    ∀ c ∈ s, special c = false := by
  induction s using pattern_induction with
  | nil => exact fun c hc => absurd hc List.not_mem_nil
  | last =>
    rw [sampleOf_last] at h
    exact absurd (List.cons.inj h).1 coll.fold_percent
  | escape c s ih =>
    have hlen := congrArg List.length h
    rw [sampleOf_escape, List.length_map, List.length_map] at hlen
    simp only [List.length_cons] at hlen
    have := length_sampleOf_le s
    omega
  | any s ih =>
    have hlen := congrArg List.length h
    rw [sampleOf_any, List.length_map, List.length_map, List.length_cons] at hlen
    have := length_sampleOf_le s
    omega
  | one s ih =>
    rw [sampleOf_one] at h
    exact absurd (List.cons.inj h).1 coll.fold_letter
  | char c s hc ih =>
    rw [sampleOf_char hc] at h
    intro d hd
    rcases List.mem_cons.mp hd with rfl | hd
    · exact hc
    · exact ih (List.cons.inj h).2 d hd

/-- **Other strings.**  A string that its sample contains has no special character. -/
theorem literal_of_contains {s : String} (h : Contains coll.fold (sample s) s) :
    ∀ c ∈ s.toList, special c = false := by
  refine literal_of_map_eq coll _ ?_
  rw [Contains, sample, String.toList_ofList] at h
  refine (h.eq_of_length_le ?_).symm
  simpa using length_sampleOf_le s.toList

end Biblio.Like
