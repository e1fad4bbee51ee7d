import Biblio.Text.Decimal

/-!
# JSON texts

The writer is `json_encode` of PHP on objects whose values are integers, strings and lists of
strings.  It escapes a character with one letter, with `\u` and the code units of its UTF-16 form,
or not at all, as its flags say.  The reader is `JSON.parse` of JavaScript, on any text; a string is
the list of its UTF-16 code units there, so that an escape is read as the one unit it names.

`parse_object`: the text of an object is read as the object, whatever `body` writes between the
quotation marks of a string, if `stringBody` reads that as `units`.  The fuel of the reader is
bounded by the length of the text.
-/

namespace Biblio.JsonText

/-! ### Writing -/

/-- The flags of `json_encode` that change the text of a string. -/
structure Flags where
  unescapedSlashes : Bool
  unescapedUnicode : Bool

/-- The UTF-16 code units of a character. -/
def units (c : Char) : List ℕ :=
  if c.toNat < 0x10000 then [c.toNat]
  else [0xD800 + (c.toNat - 0x10000) / 0x400, 0xDC00 + (c.toNat - 0x10000) % 0x400]

/-- The letter of an escape with one letter. -/
def letter (c : Char) : Option Char :=
  if c = '"' then some '"'
  else if c = '\\' then some '\\'
  else if c = '\x08' then some 'b'
  else if c = '\x0c' then some 'f'
  else if c = '\n' then some 'n'
  else if c = '\r' then some 'r'
  else if c = '\t' then some 't'
  else none

/-- The escape of a code unit by its number. -/
def unicodeEscape (n : ℕ) : List Char :=
  ['\\', 'u', Nat.digitChar (n / 4096), Nat.digitChar (n / 256 % 16), Nat.digitChar (n / 16 % 16),
    Nat.digitChar (n % 16)]

/-- A line separator of JavaScript, which `JSON_UNESCAPED_UNICODE` escapes all the same. -/
def lineSeparator (c : Char) : Bool := c.toNat == 0x2028 || c.toNat == 0x2029

/-- The character stands for itself, unless it has another escape. -/
def raw (flags : Flags) (c : Char) : Bool :=
  c.toNat < 0x80 || (flags.unescapedUnicode && !lineSeparator c)

/-- The text of a character inside a string. -/
def escape (flags : Flags) (c : Char) : List Char :=
  match letter c with
  | some l => ['\\', l]
  | none =>
    if c = '/' then if flags.unescapedSlashes then ['/'] else ['\\', '/']
    else if c.toNat < 0x20 then unicodeEscape c.toNat
    else if raw flags c then [c]
    else (units c).flatMap unicodeEscape

/-- What stands between the quotation marks of a string. -/
def escaped (flags : Flags) (s : String) : List Char := s.toList.flatMap (escape flags)

/-- Texts with commas between them. -/
def joined : List (List Char) → List Char
  | [] => []
  | item :: items => item ++ items.flatMap (',' :: ·)

section Writer

variable (body : String → List Char)

/-- A string, with `body` between its quotation marks. -/
def quoted (s : String) : List Char := '"' :: (body s ++ ['"'])

/-- A list of strings. -/
def list (l : List String) : List Char := '[' :: (joined (l.map (quoted body)) ++ [']'])

/-- The values that are written. -/
inductive Datum where
  | int (n : ℤ)
  | text (s : String)
  | texts (l : List String)
  deriving DecidableEq

def Datum.write : Datum → List Char
  | int n => (toString n).toList
  | text s => quoted body s
  | texts l => list body l

/-- A field of an object. -/
def field (f : String × Datum) : List Char := quoted body f.1 ++ ':' :: f.2.write body

/-- An object. -/
def object (fields : List (String × Datum)) : List Char :=
  '{' :: (joined (fields.map (field body)) ++ ['}'])

end Writer

/-! ### Reading -/

/-- What `JSON.parse` returns.  A number is given by its text, a string by its code units. -/
inductive Value where
  | null
  | bool (b : Bool)
  | number (text : List Char)
  | string (units : List ℕ)
  | array (elems : List Value)
  | object (fields : List (List ℕ × Value))

/-- A code unit as a character; a surrogate is no character. -/
def unitChar (u : ℕ) : Char := if u.isValidChar then Char.ofNat u else '\uFFFD'

/-- The characters of a string; a surrogate without its other half becomes U+FFFD. -/
def ofUnits : List ℕ → List Char
  | [] => []
  | [u] => [unitChar u]
  | u :: v :: us =>
    if 0xD800 ≤ u ∧ u < 0xDC00 ∧ 0xDC00 ≤ v ∧ v < 0xE000 then
      Char.ofNat (0x10000 + (u - 0xD800) * 0x400 + (v - 0xDC00)) :: ofUnits us
    else unitChar u :: ofUnits (v :: us)

/-- The property of an object; of two fields with one key the later one counts. -/
def Value.get (key : List ℕ) : Value → Option Value
  | object fields => (fields.reverse.find? fun f => f.1 == key).map Prod.snd
  | _ => none

/-- An array of strings. -/
def Value.strings : Value → Option (List String)
  | array elems => elems.mapM fun
    | string us => some (String.ofList (ofUnits us))
    | _ => none
  | _ => none

/-- White space between tokens. -/
def blank (c : Char) : Bool := c == ' ' || c == '\t' || c == '\n' || c == '\r'

def skip (cs : List Char) : List Char := cs.dropWhile blank

/-- The value of a hexadecimal digit. -/
def hexValue (c : Char) : Option ℕ :=
  if c.isDigit then some (c.toNat - 48)
  else if 'a' ≤ c ∧ c ≤ 'f' then some (c.toNat - 87)
  else if 'A' ≤ c ∧ c ≤ 'F' then some (c.toNat - 55)
  else none

/-- The code unit that `\u` and four digits stand for. -/
def hexUnit (a b c d : Char) : Option ℕ := do
  return (((← hexValue a) * 16 + (← hexValue b)) * 16 + (← hexValue c)) * 16 + (← hexValue d)

/-- The code unit that a backslash and a letter stand for. -/
def letterUnit (c : Char) : Option ℕ :=
  if c = '"' then some 34
  else if c = '\\' then some 92
  else if c = '/' then some 47
  else if c = 'b' then some 8
  else if c = 'f' then some 12
  else if c = 'n' then some 10
  else if c = 'r' then some 13
  else if c = 't' then some 9
  else none

/-- The code units of a string up to its closing quotation mark, and the text after it. -/
def stringBody : List Char → Option (List ℕ × List Char)
  | [] => none
  | '"' :: cs => some ([], cs)
  | '\\' :: 'u' :: a :: b :: c :: d :: cs =>
    (hexUnit a b c d).bind fun u => (stringBody cs).map fun r => (u :: r.1, r.2)
  | '\\' :: e :: cs => (letterUnit e).bind fun u => (stringBody cs).map fun r => (u :: r.1, r.2)
  | c :: cs =>
    if c.toNat < 0x20 then none else (stringBody cs).map fun r => (units c ++ r.1, r.2)

/-- One digit or more. -/
def digits (cs : List Char) : Option (List Char × List Char) :=
  if cs.takeWhile Char.isDigit = [] then none
  else some (cs.takeWhile Char.isDigit, cs.dropWhile Char.isDigit)

/-- The digits before the point, of which the first is a zero only if it is the only one. -/
def intPart : List Char → Option (List Char × List Char)
  | '0' :: cs => some (['0'], cs)
  | cs => digits cs

def fracPart : List Char → Option (List Char × List Char)
  | '.' :: cs => (digits cs).map fun r => ('.' :: r.1, r.2)
  | cs => some ([], cs)

/-- A sign that is one of `signs`, or none. -/
def signPart (signs : List Char) : List Char → List Char × List Char
  | c :: cs => if c ∈ signs then ([c], cs) else ([], c :: cs)
  | [] => ([], [])

def expPart : List Char → Option (List Char × List Char)
  | c :: cs =>
    if c = 'e' ∨ c = 'E' then
      let sign := signPart ['+', '-'] cs
      (digits sign.2).map fun r => (c :: sign.1 ++ r.1, r.2)
    else some ([], c :: cs)
  | [] => some ([], [])

/-- The text of a number, and the text after it. -/
def number (cs : List Char) : Option (List Char × List Char) := do
  let sign := signPart ['-'] cs
  let int ← intPart sign.2
  let frac ← fracPart int.2
  let exp ← expPart frac.2
  return (sign.1 ++ int.1 ++ frac.1 ++ exp.1, exp.2)

/-- A name or a number. -/
def scalar (cs : List Char) : Option (Value × List Char) :=
  if ['n', 'u', 'l', 'l'] <+: cs then some (.null, cs.drop 4)
  else if ['t', 'r', 'u', 'e'] <+: cs then some (.bool true, cs.drop 4)
  else if ['f', 'a', 'l', 's', 'e'] <+: cs then some (.bool false, cs.drop 5)
  else (number cs).map fun r => (.number r.1, r.2)

mutual

/-- A value, and the text after it. -/
def value : ℕ → List Char → Option (Value × List Char)
  | 0, _ => none
  | fuel + 1, cs =>
    match skip cs with
    | [] => none
    | c :: cs =>
      if c = '"' then (stringBody cs).map fun r => (.string r.1, r.2)
      else if c = '[' then
        if (skip cs).head? = some ']' then some (.array [], (skip cs).tail)
        else (elements fuel cs).map fun r => (.array r.1, r.2)
      else if c = '{' then
        if (skip cs).head? = some '}' then some (.object [], (skip cs).tail)
        else (members fuel cs).map fun r => (.object r.1, r.2)
      else scalar (c :: cs)

/-- The elements of an array up to its closing bracket. -/
def elements : ℕ → List Char → Option (List Value × List Char)
  | 0, _ => none
  | fuel + 1, cs =>
    (value fuel cs).bind fun v =>
      match skip v.2 with
      | [] => none
      | c :: cs =>
        if c = ',' then (elements fuel cs).map fun r => (v.1 :: r.1, r.2)
        else if c = ']' then some ([v.1], cs)
        else none

/-- The fields of an object up to its closing brace. -/
def members : ℕ → List Char → Option (List (List ℕ × Value) × List Char)
  | 0, _ => none
  | fuel + 1, cs =>
    match skip cs with
    | '"' :: cs =>
      (stringBody cs).bind fun key =>
        match skip key.2 with
        | ':' :: cs =>
          (value fuel cs).bind fun v =>
            match skip v.2 with
            | [] => none
            | c :: cs =>
              if c = ',' then (members fuel cs).map fun r => ((key.1, v.1) :: r.1, r.2)
              else if c = '}' then some ([(key.1, v.1)], cs)
              else none
        | _ => none
    | _ => none

end

/-- `JSON.parse`; `none` is a `SyntaxError`. -/
def parse (cs : List Char) : Option Value :=
  (value (2 * cs.length + 1) cs).bind fun r => if skip r.2 = [] then some r.1 else none

/-! ### Strings -/

theorem stringBody_letter {e : Char} {u : ℕ} (h : letterUnit e = some u) (cs : List Char) :
    stringBody ('\\' :: e :: cs) = (stringBody cs).map fun r => (u :: r.1, r.2) := by
  have he : e ≠ 'u' := by
    rintro rfl
    cases h
  rw [stringBody, h]
  · rfl
  · intro a b c d cs' heq
    exact absurd heq he

theorem stringBody_hex {a b c d : Char} {u : ℕ} (h : hexUnit a b c d = some u) (cs : List Char) :
    stringBody ('\\' :: 'u' :: a :: b :: c :: d :: cs)
      = (stringBody cs).map fun r => (u :: r.1, r.2) := by
  rw [stringBody, h]
  rfl

theorem stringBody_raw {c : Char} (h : 0x20 ≤ c.toNat) (hq : c ≠ '"') (hb : c ≠ '\\')
    (cs : List Char) :
    stringBody (c :: cs) = (stringBody cs).map fun r => (units c ++ r.1, r.2) := by
  rw [stringBody, if_neg (by omega)]
  · exact hq
  · exact fun _ _ _ _ _ heq => absurd heq hb
  · exact fun _ _ heq => absurd heq hb

theorem hexValue_digitChar {n : ℕ} (h : n < 16) : hexValue (Nat.digitChar n) = some n := by
  have htable : ∀ m < 16, hexValue (Nat.digitChar m) = some m := by decide
  exact htable n h

/-- An escape by number is read as the unit it names. -/
theorem stringBody_unicodeEscape {n : ℕ} (h : n < 0x10000) (cs : List Char) :
    stringBody (unicodeEscape n ++ cs) = (stringBody cs).map fun r => (n :: r.1, r.2) := by
  refine stringBody_hex ?_ cs
  rw [hexUnit, hexValue_digitChar (by omega), hexValue_digitChar (by omega),
    hexValue_digitChar (by omega), hexValue_digitChar (by omega)]
  refine congrArg some ?_
  show ((n / 4096 * 16 + n / 256 % 16) * 16 + n / 16 % 16) * 16 + n % 16 = n
  omega

theorem letterUnit_of_letter {c l : Char} (h : letter c = some l) :
    letterUnit l = some c.toNat ∧ c.toNat < 0x80 ∧ l.toNat < 0x80 := by
  unfold letter at h
  split_ifs at h with h₁ h₂ h₃ h₄ h₅ h₆ h₇
  all_goals
    obtain rfl := Option.some.inj h
    subst c
    decide

theorem units_lt {c : Char} {u : ℕ} (h : u ∈ units c) : u < 0x10000 := by
  unfold units at h
  split_ifs at h with hc
  · rw [List.mem_singleton.mp h]
    exact hc
  · have hvalid : c.toNat < 0xD800 ∨ (0xDFFF < c.toNat ∧ c.toNat < 0x110000) := c.valid
    rcases List.mem_cons.mp h with h | h
    · omega
    · have h := List.mem_singleton.mp h
      omega

theorem stringBody_unicodeEscapes {us : List ℕ} (h : ∀ u ∈ us, u < 0x10000) (cs : List Char) :
    stringBody (us.flatMap unicodeEscape ++ cs)
      = (stringBody cs).map fun r => (us ++ r.1, r.2) := by
  induction us with
  | nil => simp
  | cons u us ih =>
    rw [List.flatMap_cons, List.append_assoc,
      stringBody_unicodeEscape (h u (List.mem_cons_self ..)),
      ih fun v hv => h v (List.mem_cons_of_mem _ hv), Option.map_map]
    rfl

/-! A text is read here after each of its characters is replaced by `g`, which leaves those of ASCII
alone and makes no other character one of them. -/

section Recoded

variable (flags : Flags) {g : Char → List Char}

/-- The code units that the text of a character is read as. -/
def unitsVia (g : Char → List Char) (c : Char) : List ℕ :=
  if raw flags c then (g c).flatMap units else units c

theorem flatMap_eq_self {l : List Char} (hascii : ∀ c, c.toNat < 0x80 → g c = [c])
    (h : ∀ c ∈ l, c.toNat < 0x80) : l.flatMap g = l := by
  induction l with
  | nil => rfl
  | cons c l ih =>
    rw [List.flatMap_cons, hascii c (h c (List.mem_cons_self ..)),
      ih fun d hd => h d (List.mem_cons_of_mem _ hd)]
    rfl

theorem ascii_unicodeEscape {n : ℕ} (hn : n < 0x10000) {c : Char} (hc : c ∈ unicodeEscape n) :
    c.toNat < 0x80 := by
  have hdigit : ∀ m < 16, (Nat.digitChar m).toNat < 0x80 := by decide
  simp only [unicodeEscape, List.mem_cons, List.not_mem_nil, or_false] at hc
  rcases hc with rfl | rfl | rfl | rfl | rfl | rfl
  · decide
  · decide
  all_goals exact hdigit _ (by omega)

theorem stringBody_raws {l : List Char}
    (h : ∀ c ∈ l, 0x20 ≤ c.toNat ∧ c ≠ '"' ∧ c ≠ '\\') (cs : List Char) :
    stringBody (l ++ cs) = (stringBody cs).map fun r => (l.flatMap units ++ r.1, r.2) := by
  induction l with
  | nil => simp
  | cons c l ih =>
    obtain ⟨hle, hq, hb⟩ := h c (List.mem_cons_self ..)
    rw [List.cons_append, stringBody_raw hle hq hb, ih fun d hd => h d (List.mem_cons_of_mem _ hd),
      Option.map_map, List.flatMap_cons]
    refine congrArg (Option.map · _) (funext fun r => ?_)
    show (units c ++ (l.flatMap units ++ r.1), r.2) = _
    rw [List.append_assoc]

variable (hascii : ∀ c, c.toNat < 0x80 → g c = [c])

include hascii

theorem unitsVia_ascii {c : Char} (hc : c.toNat < 0x80) : unitsVia flags g c = [c.toNat] := by
  have hunits : units c = [c.toNat] := if_pos (by omega)
  unfold unitsVia
  rw [hascii c hc, List.flatMap_singleton, hunits, ite_self]

variable (hhigh : ∀ c, 0x80 ≤ c.toNat → ∀ d ∈ g c, 0x80 ≤ d.toNat)

include hhigh

/-- The text of a character is read as the code units it is meant for. -/
theorem stringBody_escape (c : Char) (cs : List Char) :
    stringBody ((escape flags c).flatMap g ++ cs)
      = (stringBody cs).map fun r => (unitsVia flags g c ++ r.1, r.2) := by
  unfold escape
  split
  · next l hl =>
    obtain ⟨hunit, hc, hl⟩ := letterUnit_of_letter hl
    have htext : ['\\', l].flatMap g = ['\\', l] := by
      refine flatMap_eq_self hascii fun d hd => ?_
      rcases List.mem_pair.mp hd with rfl | rfl
      · decide
      · exact hl
    rw [htext, unitsVia_ascii flags hascii hc]
    exact stringBody_letter hunit cs
  · next hletter =>
    have hq : c ≠ '"' := by
      rintro rfl
      cases hletter
    have hb : c ≠ '\\' := by
      rintro rfl
      cases hletter
    by_cases hslash : c = '/'
    · subst hslash
      rw [if_pos rfl, unitsVia_ascii flags hascii (by decide)]
      split_ifs
      · rw [flatMap_eq_self hascii (List.forall_mem_singleton.mpr (by decide))]
        exact stringBody_raw (by decide) (by decide) (by decide) cs
      · rw [flatMap_eq_self hascii
          (List.forall_mem_cons.mpr ⟨by decide, List.forall_mem_singleton.mpr (by decide)⟩)]
        exact stringBody_letter (by decide) cs
    rw [if_neg hslash]
    by_cases hcontrol : c.toNat < 0x20
    · rw [if_pos hcontrol, flatMap_eq_self hascii fun d => ascii_unicodeEscape (by omega),
        unitsVia_ascii flags hascii (by omega)]
      exact stringBody_unicodeEscape (by omega) cs
    rw [if_neg hcontrol]
    by_cases hraw : raw flags c = true
    · rw [if_pos hraw, unitsVia, if_pos hraw, List.flatMap_singleton]
      refine stringBody_raws (fun d hd => ?_) cs
      by_cases hc : c.toNat < 0x80
      · rw [hascii c hc] at hd
        obtain rfl := List.mem_singleton.mp hd
        exact ⟨by omega, hq, hb⟩
      · have hd := hhigh c (by omega) d hd
        refine ⟨by omega, ?_, ?_⟩
        · rintro rfl
          exact absurd hd (by decide)
        · rintro rfl
          exact absurd hd (by decide)
    · rw [if_neg hraw, unitsVia, if_neg hraw, flatMap_eq_self hascii fun d hd => ?_]
      · exact stringBody_unicodeEscapes (fun _ => units_lt) cs
      · obtain ⟨u, hu, hd⟩ := List.mem_flatMap.mp hd
        exact ascii_unicodeEscape (units_lt hu) hd

/-- The text of a string is read as the code units of its characters. -/
theorem stringBody_escaped (s : String) (cs : List Char) :
    stringBody ((escaped flags s).flatMap g ++ '"' :: cs)
      = some (s.toList.flatMap (unitsVia flags g), cs) := by
  unfold escaped
  induction s.toList with
  | nil => rfl
  | cons c l ih =>
    rw [List.flatMap_cons, List.flatMap_append, List.append_assoc,
      stringBody_escape flags hascii hhigh, ih, List.flatMap_cons]
    rfl

end Recoded

/-- A character below the surrogates is one code unit. -/
theorem flatMap_units {l : List Char} (h : ∀ d ∈ l, d.toNat < 0xD800) :
    l.flatMap units = l.map Char.toNat := by
  rw [List.map_eq_flatMap]
  refine List.flatMap_congr fun d hd => if_pos ?_
  have hlt := h d hd
  omega

/-- Below the surrogates a code unit is a character. -/
theorem ofUnits_of_lt {us : List ℕ} (h : ∀ u ∈ us, u < 0xD800) :
    ofUnits us = us.map Char.ofNat := by
  have hunit : ∀ u < 0xD800, unitChar u = Char.ofNat u := fun u hu => if_pos (Or.inl hu)
  fun_induction ofUnits us with
  | case1 => rfl
  | case2 u => rw [hunit u (h u (List.mem_cons_self ..)), List.map_singleton]
  | case3 u v us hpair ih =>
    have hu := h u (List.mem_cons_self ..)
    omega
  | case4 u v us hpair ih =>
    rw [hunit u (h u (List.mem_cons_self ..)), ih fun w hw => h w (List.mem_cons_of_mem _ hw)]
    rfl

/-! ### Numbers -/

/-- What may stand after a value. -/
def stops (cs : List Char) : Bool := cs.head?.all fun c => c == ',' || c == ']' || c == '}'

theorem digits_append {ds cs : List Char} (hds : ∀ c ∈ ds, c.isDigit = true) (hne : ds ≠ [])
    (hcs : stops cs = true) : digits (ds ++ cs) = some (ds, cs) := by
  have hrest : cs.takeWhile Char.isDigit = [] ∧ cs.dropWhile Char.isDigit = cs := by
    cases cs with
    | nil => exact ⟨rfl, rfl⟩
    | cons c cs =>
      simp only [stops, List.head?_cons, Option.all_some, Bool.or_eq_true, beq_iff_eq] at hcs
      rcases hcs with (rfl | rfl) | rfl <;> exact ⟨rfl, rfl⟩
  rw [digits, List.takeWhile_append_of_pos hds, List.dropWhile_append_of_pos hds, hrest.1, hrest.2,
    List.append_nil, if_neg hne]

theorem intPart_toDigits (n : ℕ) {cs : List Char} (hcs : stops cs = true) :
    intPart (Nat.toDigits 10 n ++ cs) = some (Nat.toDigits 10 n, cs) := by
  rcases Nat.eq_zero_or_pos n with rfl | hn
  · rfl
  · rw [intPart]
    · exact digits_append (fun _ => isDigit_of_mem) Nat.toDigits_ne_nil hcs
    · intro cs' heq
      have hhead := head_toDigits hn
      have hsame : (Nat.toDigits 10 n ++ cs).head? = (Nat.toDigits 10 n).head? :=
        List.head?_append_of_ne_nil _ Nat.toDigits_ne_nil
      rw [← hsame, heq] at hhead
      cases hhead

theorem fracPart_of_stops {cs : List Char} (hcs : stops cs = true) :
    fracPart cs = some ([], cs) := by
  rw [fracPart]
  rintro cs' rfl
  cases hcs

theorem expPart_of_stops {cs : List Char} (hcs : stops cs = true) : expPart cs = some ([], cs) := by
  cases cs with
  | nil => rfl
  | cons c cs =>
    rw [expPart, if_neg]
    rintro (rfl | rfl) <;> cases hcs

theorem signPart_digit {c : Char} (h : c.isDigit = true) (cs : List Char) :
    signPart ['-'] (c :: cs) = ([], c :: cs) := by
  rw [signPart, if_neg]
  intro hc
  obtain rfl := List.mem_singleton.mp hc
  cases h

/-- The text of an integer is read as a number. -/
theorem number_toString (n : ℤ) {cs : List Char} (hcs : stops cs = true) :
    number ((toString n).toList ++ cs) = some ((toString n).toList, cs) := by
  have hsign : signPart ['-'] ((toString n).toList ++ cs)
      = (if 0 ≤ n then [] else ['-'], Nat.toDigits 10 n.natAbs ++ cs) := by
    rw [toList_toString]
    split_ifs
    · have hne : Nat.toDigits 10 n.natAbs ≠ [] := Nat.toDigits_ne_nil
      obtain ⟨c, l, hcl⟩ := List.exists_cons_of_ne_nil hne
      rw [hcl]
      exact signPart_digit (isDigit_of_mem (hcl ▸ List.mem_cons_self)) _
    · rfl
  rw [number, hsign]
  simp only [intPart_toDigits _ hcs, fracPart_of_stops hcs, expPart_of_stops hcs, bind,
    Option.bind_some, List.append_nil, pure]
  rw [toList_toString]
  split_ifs <;> rfl

/-! ### Values -/

theorem skip_cons {c : Char} (h : blank c = false) (cs : List Char) : skip (c :: cs) = c :: cs := by
  rw [skip, List.dropWhile_cons_of_neg (by rw [h]; exact Bool.false_ne_true)]

theorem joined_cons_cons (a b : List Char) (l : List (List Char)) :
    joined (a :: b :: l) = a ++ ',' :: joined (b :: l) := by
  simp [joined]

/-- An integer in front of what may follow it. -/
theorem value_int (n : ℤ) {fuel : ℕ} {cs : List Char} (hcs : stops cs = true) :
    value (fuel + 1) ((toString n).toList ++ cs) = some (.number (toString n).toList, cs) := by
  have hne : (toString n).toList ≠ [] := by
    rw [toList_toString]
    split_ifs
    · exact Nat.toDigits_ne_nil
    · exact List.cons_ne_nil _ _
  obtain ⟨c, l, hcl⟩ := List.exists_cons_of_ne_nil hne
  have hc : c = '-' ∨ c.isDigit = true := by
    have hmem : c ∈ (toString n).toList := hcl ▸ List.mem_cons_self
    rw [toList_toString] at hmem
    split_ifs at hmem
    · exact Or.inr (isDigit_of_mem hmem)
    · exact (List.mem_cons.mp hmem).imp_right isDigit_of_mem
  -- the first character begins neither a string, an array, an object nor a name
  have hfirst : ∀ d, d ∈ [' ', '\t', '\n', '\r', '"', '[', '{', 'n', 't', 'f'] → c ≠ d := by
    rintro d hd rfl
    have hnot : [' ', '\t', '\n', '\r', '"', '[', '{', 'n', 't', 'f'].all
        (fun d => decide (¬ (d = '-' ∨ d.isDigit = true))) = true := by decide
    exact of_decide_eq_true (List.all_eq_true.mp hnot c hd) hc
  have hblank : blank c = false := by
    simp only [blank, Bool.or_eq_false_iff, beq_eq_false_iff_ne]
    exact ⟨⟨⟨hfirst _ (by decide), hfirst _ (by decide)⟩, hfirst _ (by decide)⟩,
      hfirst _ (by decide)⟩
  have hname : ∀ d w, d ∈ ['n', 't', 'f'] → ¬ (d :: w <+: c :: (l ++ cs)) := by
    intro d w hd hpre
    refine hfirst d ?_ (List.cons_prefix_cons.mp hpre).1.symm
    simp only [List.mem_cons] at hd ⊢
    tauto
  have hnumber := number_toString n hcs
  rw [hcl, List.cons_append] at hnumber ⊢
  rw [value, skip_cons hblank]
  simp only [if_neg (hfirst '"' (by decide)), if_neg (hfirst '[' (by decide)),
    if_neg (hfirst '{' (by decide))]
  rw [scalar, if_neg (hname 'n' _ (by decide)), if_neg (hname 't' _ (by decide)),
    if_neg (hname 'f' _ (by decide)), hnumber]
  rfl

/-- What a written value is read as. -/
def Datum.read (read : String → List ℕ) : Datum → Value
  | int n => .number (toString n).toList
  | text s => .string (read s)
  | texts l => .array (l.map fun s => .string (read s))

/-- The fuel that reading a value takes. -/
def Datum.fuel : Datum → ℕ
  | int _ => 1
  | text _ => 1
  | texts l => l.length + 2

section Reader

variable {body : String → List Char} {read : String → List ℕ}
  (hbody : ∀ s cs, stringBody (body s ++ '"' :: cs) = some (read s, cs))

include hbody

theorem stringBody_quoted (s : String) (cs : List Char) :
    stringBody ((quoted body s).tail ++ cs) = some (read s, cs) := by
  rw [quoted, List.tail_cons, List.append_assoc]
  exact hbody s cs

theorem value_text (s : String) (fuel : ℕ) (cs : List Char) :
    value (fuel + 1) (quoted body s ++ cs) = some (.string (read s), cs) := by
  have htext : quoted body s ++ cs = '"' :: ((quoted body s).tail ++ cs) := rfl
  rw [htext, value, skip_cons (by decide)]
  simp only [if_pos, stringBody_quoted hbody]
  rfl

/-- The strings of a list are read one after the other. -/
theorem elements_texts (s : String) (l : List String) {fuel : ℕ} (hfuel : l.length + 2 ≤ fuel)
    (cs : List Char) :
    elements fuel (joined ((s :: l).map (quoted body)) ++ ']' :: cs)
      = some ((s :: l).map fun s => .string (read s), cs) := by
  induction l generalizing s fuel with
  | nil =>
    obtain ⟨fuel, rfl⟩ : ∃ m, fuel = m + 2 := ⟨fuel - 2, by simp at hfuel; omega⟩
    have htext : joined ([s].map (quoted body)) ++ ']' :: cs = quoted body s ++ ']' :: cs := by
      simp [joined]
    rw [htext, elements, value_text hbody, Option.bind_some, skip_cons (by decide)]
    rfl
  | cons s' l ih =>
    rw [List.length_cons] at hfuel
    obtain ⟨fuel, rfl⟩ : ∃ m, fuel = m + 2 := ⟨fuel - 2, by omega⟩
    have htext : joined ((s :: s' :: l).map (quoted body)) ++ ']' :: cs
        = quoted body s ++ ',' :: (joined ((s' :: l).map (quoted body)) ++ ']' :: cs) := by
      rw [List.map_cons, List.map_cons, joined_cons_cons, List.append_assoc]
      rfl
    rw [htext, elements, value_text hbody, Option.bind_some, skip_cons (by decide)]
    simp only [if_pos]
    rw [ih s' (by omega)]
    rfl

theorem value_texts (l : List String) {fuel : ℕ} (hfuel : l.length + 2 ≤ fuel) (cs : List Char) :
    value fuel (list body l ++ cs) = some (.array (l.map fun s => .string (read s)), cs) := by
  obtain ⟨fuel, rfl⟩ : ∃ m, fuel = m + 1 := ⟨fuel - 1, by omega⟩
  have htext : list body l ++ cs = '[' :: (joined (l.map (quoted body)) ++ ']' :: cs) := by
    simp [list]
  rw [htext, value, skip_cons (by decide)]
  simp only [if_neg (show '[' ≠ '"' by decide), if_pos]
  cases l with
  | nil => rfl
  | cons s l =>
    have hhead : (skip (joined ((s :: l).map (quoted body)) ++ ']' :: cs)).head? = some '"' := rfl
    rw [hhead, if_neg (by decide), elements_texts hbody s l (by simpa using hfuel)]
    rfl

theorem value_write (d : Datum) {fuel : ℕ} (hfuel : d.fuel ≤ fuel) {cs : List Char}
    (hcs : stops cs = true) : value fuel (d.write body ++ cs) = some (d.read read, cs) := by
  cases d with
  | int n =>
    obtain ⟨fuel, rfl⟩ : ∃ m, fuel = m + 1 := ⟨fuel - 1, by simp [Datum.fuel] at hfuel; omega⟩
    exact value_int n hcs
  | text s =>
    obtain ⟨fuel, rfl⟩ : ∃ m, fuel = m + 1 := ⟨fuel - 1, by simp [Datum.fuel] at hfuel; omega⟩
    exact value_text hbody s fuel cs
  | texts l => exact value_texts hbody l hfuel cs

/-- The fields of an object are read one after the other. -/
theorem members_fields (f : String × Datum) (fields : List (String × Datum)) {fuel : ℕ}
    (hfuel : ∀ e ∈ f :: fields, fields.length + 1 + e.2.fuel ≤ fuel) (cs : List Char) :
    members fuel (joined ((f :: fields).map (field body)) ++ '}' :: cs)
      = some ((f :: fields).map fun e => (read e.1, e.2.read read), cs) := by
  induction fields generalizing f fuel with
  | nil =>
    have hf := hfuel f (List.mem_cons_self ..)
    obtain ⟨fuel, rfl⟩ : ∃ m, fuel = m + 1 := ⟨fuel - 1, by omega⟩
    have htext : joined ([f].map (field body)) ++ '}' :: cs
        = '"' :: ((quoted body f.1).tail ++ ':' :: (f.2.write body ++ '}' :: cs)) := by
      simp [joined, field, quoted]
    rw [htext, members, skip_cons (by decide)]
    simp only [stringBody_quoted hbody, Option.bind_some, skip_cons (c := ':') (by decide)]
    rw [value_write hbody f.2 (by omega) (by rfl), Option.bind_some, skip_cons (by decide)]
    rfl
  | cons f' fields ih =>
    have hf := hfuel f (List.mem_cons_self ..)
    obtain ⟨fuel, rfl⟩ : ∃ m, fuel = m + 1 := ⟨fuel - 1, by omega⟩
    have htext : joined ((f :: f' :: fields).map (field body)) ++ '}' :: cs
        = '"' :: ((quoted body f.1).tail ++ ':' :: (f.2.write body ++
          ',' :: (joined ((f' :: fields).map (field body)) ++ '}' :: cs))) := by
      rw [List.map_cons, List.map_cons, joined_cons_cons]
      simp [field, quoted]
    rw [htext, members, skip_cons (by decide)]
    simp only [stringBody_quoted hbody, Option.bind_some, skip_cons (c := ':') (by decide)]
    rw [value_write hbody f.2 (by rw [List.length_cons] at hf; omega) (by rfl), Option.bind_some,
      skip_cons (by decide)]
    simp only [if_pos]
    rw [ih f' fun e he => ?_]
    · rfl
    · have := hfuel e (List.mem_cons_of_mem _ he)
      rw [List.length_cons] at this
      omega

end Reader

/-! ### Objects -/

theorem length_le_joined {item : List Char} {items : List (List Char)} (h : item ∈ items) :
    item.length ≤ (joined items).length := by
  cases items with
  | nil => cases h
  | cons a items =>
    rw [joined, List.length_append]
    rcases List.mem_cons.mp h with rfl | h
    · omega
    · obtain ⟨u, v, rfl⟩ := List.append_of_mem h
      rw [List.flatMap_append, List.flatMap_cons]
      simp only [List.length_append, List.length_cons]
      omega

theorem length_le_length_joined (items : List (List Char)) (h : ∀ item ∈ items, item ≠ []) :
    items.length ≤ (joined items).length := by
  cases items with
  | nil => exact Nat.le_refl _
  | cons a items =>
    have ha := List.length_pos_of_ne_nil (h a (List.mem_cons_self ..))
    have hrest : items.length ≤ (items.flatMap (',' :: ·)).length := by
      induction items with
      | nil => exact Nat.le_refl _
      | cons b items ih =>
        have := ih fun item hitem => h item (by
          rcases List.mem_cons.mp hitem with rfl | hitem
          · exact List.mem_cons_self ..
          · exact List.mem_cons_of_mem _ (List.mem_cons_of_mem _ hitem))
        simp only [List.flatMap_cons, List.length_append, List.length_cons]
        omega
    rw [joined, List.length_append, List.length_cons]
    omega

theorem Datum.fuel_le (body : String → List Char) (d : Datum) :
    d.fuel ≤ (d.write body).length + 1 := by
  cases d with
  | int n => exact Nat.le_add_left _ _
  | text s => exact Nat.le_add_left _ _
  | texts l =>
    have hlen := length_le_length_joined (l.map (quoted body)) <|
      List.forall_mem_map.mpr fun _ _ => List.cons_ne_nil _ _
    rw [List.length_map] at hlen
    simp only [fuel, write, list, List.length_cons, List.length_append, List.length_nil]
    omega

section Recoded

variable {g : Char → List Char} (hascii : ∀ c, c.toNat < 0x80 → g c = [c])
  (body : String → List Char)

include hascii

theorem flatMap_quoted (s : String) :
    (quoted body s).flatMap g = quoted (fun s => (body s).flatMap g) s := by
  simp [quoted, hascii '"' (by decide)]

theorem flatMap_joined (items : List (List Char)) :
    (joined items).flatMap g = joined (items.map (List.flatMap g)) := by
  cases items with
  | nil => rfl
  | cons a items =>
    have hrest : (items.flatMap (',' :: ·)).flatMap g
        = (items.map (List.flatMap g)).flatMap (',' :: ·) := by
      rw [List.flatMap_assoc, List.flatMap_map]
      refine List.flatMap_congr fun item _ => ?_
      rw [List.flatMap_cons, hascii ',' (by decide), List.singleton_append]
    rw [joined, List.flatMap_append, hrest, List.map_cons, joined]

theorem flatMap_enclosed {a b : Char} (ha : a.toNat < 0x80) (hb : b.toNat < 0x80)
    {items items' : List (List Char)} (h : items.map (List.flatMap g) = items') :
    (a :: (joined items ++ [b])).flatMap g = a :: (joined items' ++ [b]) := by
  rw [List.flatMap_cons, List.flatMap_append, flatMap_joined hascii, h, hascii a ha,
    List.flatMap_singleton, hascii b hb]
  rfl

theorem flatMap_write (d : Datum) :
    (d.write body).flatMap g = d.write fun s => (body s).flatMap g := by
  cases d with
  | int n =>
    refine flatMap_eq_self hascii fun c hc => ?_
    have hdigit : ∀ c : Char, c.isDigit = true → c.toNat < 0x80 := by
      intro c hc
      simp only [Char.isDigit, Bool.and_eq_true, decide_eq_true_eq] at hc
      have hle := UInt32.le_iff_toNat_le.mp hc.2
      change c.toNat ≤ 57 at hle
      omega
    rw [Datum.write, toList_toString] at hc
    split_ifs at hc
    · exact hdigit c (isDigit_of_mem hc)
    · rcases List.mem_cons.mp hc with rfl | hc
      · decide
      · exact hdigit c (isDigit_of_mem hc)
  | text s => exact flatMap_quoted hascii body s
  | texts l =>
    refine flatMap_enclosed hascii (by decide) (by decide) ?_
    rw [List.map_map]
    exact List.map_congr_left fun s _ => flatMap_quoted hascii body s

/-- Recoding the text of an object recodes its strings. -/
theorem flatMap_object (fields : List (String × Datum)) :
    (object body fields).flatMap g = object (fun s => (body s).flatMap g) fields := by
  have hfield : ∀ f : String × Datum,
      (field body f).flatMap g = field (fun s => (body s).flatMap g) f := by
    intro f
    rw [field, List.flatMap_append, List.flatMap_cons, flatMap_quoted hascii,
      flatMap_write hascii, hascii ':' (by decide)]
    rfl
  refine flatMap_enclosed hascii (by decide) (by decide) ?_
  rw [List.map_map]
  exact List.map_congr_left fun f _ => hfield f

end Recoded

/-- A field of the object is found by its key, if no other one has the key. -/
theorem Value.get_of_mem {fields : List (List ℕ × Value)} {key : List ℕ} {v : Value}
    (hmem : (key, v) ∈ fields) (hkey : ∀ f ∈ fields, f.1 = key → f = (key, v)) :
    (Value.object fields).get key = some v := by
  have hsome : ∃ f ∈ fields.reverse, (f.1 == key) = true :=
    ⟨(key, v), List.mem_reverse.mpr hmem, beq_self_eq_true key⟩
  obtain ⟨f, hf⟩ := Option.isSome_iff_exists.mp (List.find?_isSome.mpr hsome)
  have hfmem := List.mem_reverse.mp (List.mem_of_find?_eq_some hf)
  have hfkey := List.find?_some hf
  rw [Value.get, hf, hkey f hfmem (eq_of_beq hfkey)]
  rfl

/-- **Round trip.**  The text of an object is read as the object. -/
theorem parse_object {body : String → List Char} {read : String → List ℕ}
    (hbody : ∀ s cs, stringBody (body s ++ '"' :: cs) = some (read s, cs))
    (fields : List (String × Datum)) :
    parse (object body fields)
      = some (.object (fields.map fun e => (read e.1, e.2.read read))) := by
  have hvalue : value (2 * (object body fields).length + 1) (object body fields)
      = some (.object (fields.map fun e => (read e.1, e.2.read read)), []) := by
    generalize hn : (object body fields).length = n
    rw [object, value, skip_cons (by decide)]
    simp only [if_neg (show '{' ≠ '"' by decide), if_neg (show '{' ≠ '[' by decide), if_pos]
    cases fields with
    | nil => rfl
    | cons f fields =>
      have hhead : (skip (joined ((f :: fields).map (field body)) ++ ['}'])).head? = some '"' := rfl
      rw [hhead, if_neg (by decide), members_fields hbody f fields fun e he => ?_]
      · rfl
      · -- every field is shorter than the text, and there are fewer fields than characters
        have hcount := length_le_length_joined ((f :: fields).map (field body)) <|
          List.forall_mem_map.mpr fun _ _ => List.cons_ne_nil _ _
        have hfield := length_le_joined (List.mem_map_of_mem (f := field body) he)
        have hfuel := e.2.fuel_le body
        simp only [object, List.length_cons, List.length_append, List.length_nil] at hn
        rw [List.length_map, List.length_cons] at hcount
        rw [field, List.length_append, List.length_cons] at hfield
        omega
  rw [parse, hvalue]
  rfl

end Biblio.JsonText
