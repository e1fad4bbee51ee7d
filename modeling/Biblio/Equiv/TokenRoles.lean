import Biblio.Jeton
import Mathlib.Data.List.Nodup

/-!
# The roles in the payload of a token

`atob` throws on the two characters that the alphabet of URLs has in place of `+` and `/`, and the
roles are then left as they were.  Where they do not occur, `JSON.parse` gets the payload with the
bytes of each character in place of the character: the text is still that of an object with a field
`roles`, and of the role names those are intact whose characters are ASCII or were escaped
(`relu_eq_self_iff`).

`token_roles_iff` puts the two together.
-/

namespace Biblio

open JsonText Base64

/-! ### Strings -/

/-- A character of the payload that the client reads as it was. -/
def lisible (c : Char) : Bool := c.toNat < 0x80 || lineSeparator c

/-- What the client reads for a character of a string in the payload. -/
def reluChar (c : Char) : List Char := if lineSeparator c then [c] else byteChars c

/-- What the client reads for a string in the payload. -/
def relu (s : String) : String := String.ofList (s.toList.flatMap reluChar)

theorem toNat_of_lineSeparator {c : Char} (h : lineSeparator c = true) :
    0x80 ≤ c.toNat ∧ c.toNat < 0xD800 := by
  simp only [lineSeparator, Bool.or_eq_true, beq_iff_eq] at h
  omega

theorem reluChar_of_not_lineSeparator {c : Char} (h : lineSeparator c = false) :
    reluChar c = byteChars c := by
  rw [reluChar, h, if_neg Bool.false_ne_true]

theorem reluChar_of_lisible {c : Char} (h : lisible c = true) : reluChar c = [c] := by
  unfold reluChar
  split_ifs with hline
  · rfl
  · refine byteChars_of_lt ?_
    simpa [lisible, hline] using h

/-- A character beyond ASCII is read as several ones, unless it was escaped. -/
theorem length_reluChar {c : Char} (h : lisible c = false) : 1 < (reluChar c).length := by
  simp only [lisible, Bool.or_eq_false_iff, decide_eq_false_iff_not, Nat.not_lt] at h
  rw [reluChar_of_not_lineSeparator h.2]
  exact (byteChars_of_le h.1).1

theorem reluChar_ne_nil (c : Char) : reluChar c ≠ [] := by
  cases hc : lisible c with
  | true =>
    rw [reluChar_of_lisible hc]
    exact List.cons_ne_nil _ _
  | false =>
    have := length_reluChar hc
    exact List.ne_nil_of_length_pos (by omega)

theorem length_le_flatMap_reluChar (l : List Char) : l.length ≤ (l.flatMap reluChar).length := by
  induction l with
  | nil => exact Nat.le_refl _
  | cons c l ih =>
    have hc := List.length_pos_of_ne_nil (reluChar_ne_nil c)
    rw [List.flatMap_cons, List.length_append, List.length_cons]
    omega

theorem flatMap_reluChar_eq_self_iff (l : List Char) :
    l.flatMap reluChar = l ↔ ∀ c ∈ l, lisible c = true := by
  induction l with
  | nil => simp
  | cons c l ih =>
    rw [List.flatMap_cons, List.forall_mem_cons, ← ih]
    cases hc : lisible c with
    | true => simp [reluChar_of_lisible hc]
    | false =>
      -- several characters stand in the place of `c`, so the text has grown
      have hlong := length_reluChar hc
      have hrest := length_le_flatMap_reluChar l
      refine iff_of_false (fun heq => ?_) (by simp)
      have hlength := congrArg List.length heq
      rw [List.length_append, List.length_cons] at hlength
      omega

theorem relu_eq_self_iff (s : String) : relu s = s ↔ ∀ c ∈ s.toList, lisible c = true := by
  rw [← flatMap_reluChar_eq_self_iff, relu]
  constructor
  · intro h
    have hlist := congrArg String.toList h
    rwa [String.toList_ofList] at hlist
  · intro h
    rw [h, String.ofList_toList]

/-- Only an ASCII string is read as one. -/
theorem eq_of_relu_eq {s t : String} (ht : ∀ c ∈ t.toList, c.toNat < 0x80) (h : relu s = t) :
    s = t := by
  have hself : relu s = s := by
    rw [relu_eq_self_iff]
    intro c hc
    by_contra hlisible
    rw [Bool.not_eq_true] at hlisible
    simp only [lisible, Bool.or_eq_false_iff, decide_eq_false_iff_not, Nat.not_lt] at hlisible
    -- a byte of `c` would be among the characters of `t`
    obtain ⟨d, hd⟩ := List.exists_mem_of_ne_nil _ (reluChar_ne_nil c)
    have hmem : d ∈ t.toList := by
      rw [← h, relu, String.toList_ofList]
      exact List.mem_flatMap.mpr ⟨c, hc, hd⟩
    rw [reluChar_of_not_lineSeparator hlisible.2] at hd
    have hhigh := ((byteChars_of_le hlisible.1).2 d hd).1
    have hlow := ht d hmem
    omega
  exact hself.symm.trans h

/-! ### Reading -/

/-- A character of what is read is one code unit, and no surrogate. -/
theorem toNat_of_mem_reluChar {c d : Char} (h : d ∈ reluChar c) : d.toNat < 0xD800 := by
  unfold reluChar at h
  split_ifs at h with hline
  · rw [List.mem_singleton.mp h]
    exact (toNat_of_lineSeparator hline).2
  · by_cases hc : c.toNat < 0x80
    · rw [byteChars_of_lt hc] at h
      rw [List.mem_singleton.mp h]
      omega
    · have hd := ((byteChars_of_le (Nat.not_lt.mp hc)).2 d h).2
      omega

theorem unitsVia_byteChars (c : Char) :
    unitsVia ⟨true, true⟩ byteChars c = (reluChar c).map Char.toNat := by
  have hlt : ∀ d ∈ reluChar c, d.toNat < 0xD800 := fun d hd => toNat_of_mem_reluChar hd
  unfold unitsVia
  cases hline : lineSeparator c with
  | true =>
    have hhigh := (toNat_of_lineSeparator hline).1
    have hraw : raw ⟨true, true⟩ c = false := by simp [raw, hline, hhigh]
    have hrelu : reluChar c = [c] := by rw [reluChar, if_pos hline]
    rw [hraw, if_neg Bool.false_ne_true, ← flatMap_units hlt, hrelu, List.flatMap_singleton]
  | false =>
    have hraw : raw ⟨true, true⟩ c = true := by simp [raw, hline]
    rw [if_pos hraw, ← reluChar_of_not_lineSeparator hline, flatMap_units hlt]

/-- The code units that the client reads for a string in the payload. -/
def unitesLues (s : String) : List ℕ := (relu s).toList.map Char.toNat

theorem flatMap_unitsVia (s : String) :
    s.toList.flatMap (unitsVia ⟨true, true⟩ byteChars) = unitesLues s := by
  rw [unitesLues, relu, String.toList_ofList, List.map_flatMap]
  exact List.flatMap_congr fun c _ => unitsVia_byteChars c

theorem ofUnits_unitesLues (s : String) :
    String.ofList (ofUnits (unitesLues s)) = relu s := by
  have hlt : ∀ u ∈ unitesLues s, u < 0xD800 := by
    intro u hu
    obtain ⟨d, hd, rfl⟩ := List.mem_map.mp hu
    rw [relu, String.toList_ofList] at hd
    obtain ⟨c, -, hc⟩ := List.mem_flatMap.mp hd
    exact toNat_of_mem_reluChar hc
  have hback : Char.ofNat ∘ Char.toNat = id := funext Char.ofNat_toNat
  rw [ofUnits_of_lt hlt, unitesLues, List.map_map, hback, List.map_id, String.ofList_toList]

theorem strings_unitesLues (l : List String) :
    (Value.array (l.map fun s => .string (unitesLues s))).strings = some (l.map relu) := by
  rw [Value.strings]
  induction l with
  | nil => rfl
  | cons s l ih =>
    rw [List.map_cons, List.mapM_cons, ih]
    show some (String.ofList (ofUnits (unitesLues s)) :: l.map relu) = _
    rw [ofUnits_unitesLues, List.map_cons]

/-- `JSON.parse` of the bytes of a payload: an object of which each string is read with `relu`. -/
theorem parse_payload (p : Payload) :
    parse ((object (escaped ⟨true, true⟩) p.champs).flatMap byteChars)
      = some (.object (p.champs.map fun e => (unitesLues e.1, e.2.read unitesLues))) := by
  have hbody : ∀ s cs, stringBody ((escaped ⟨true, true⟩ s).flatMap byteChars ++ '"' :: cs)
      = some (unitesLues s, cs) := by
    intro s cs
    rw [stringBody_escaped ⟨true, true⟩ (fun _ => byteChars_of_lt)
      fun c hc d hd => ((byteChars_of_le hc).2 d hd).1, flatMap_unitsVia]
  rw [flatMap_object fun _ => byteChars_of_lt]
  exact parse_object hbody p.champs

/-- The property `roles` of that object. -/
theorem get_roles (p : Payload) :
    (Value.object (p.champs.map fun e => (unitesLues e.1, e.2.read unitesLues))).get
        ("roles".toList.flatMap units)
      = some (.array (p.roles.map fun s => .string (unitesLues s))) := by
  have hall : "roles".toList.all (fun c => decide (c.toNat < 0x80)) = true := by decide
  have hascii : ∀ c ∈ "roles".toList, c.toNat < 0x80 := fun c hc =>
    of_decide_eq_true (List.all_eq_true.mp hall c hc)
  have hrelu : relu "roles" = "roles" := by
    rw [relu_eq_self_iff]
    intro c hc
    simp [lisible, hascii c hc]
  have hkey : "roles".toList.flatMap units = unitesLues "roles" := by
    rw [unitesLues, hrelu]
    exact flatMap_units fun c hc => Nat.lt_trans (hascii c hc) (by decide)
  rw [hkey]
  refine Value.get_of_mem (List.mem_map.mpr ⟨_, p.roles_mem, rfl⟩) fun f hf hfkey => ?_
  obtain ⟨e, he, rfl⟩ := List.mem_map.mp hf
  -- the keys of the payload are distinct, and only `roles` is read as `roles`
  have hinj : Function.Injective Char.toNat := fun _ _ h => Char.toNat_inj.mp h
  have hname := String.toList_injective (hinj.list_map hfkey)
  rw [hrelu] at hname
  have hfst : e.1 = "roles" := eq_of_relu_eq hascii hname
  have heq : e = ("roles", .texts p.roles) :=
    List.inj_on_of_nodup_map p.nodup he p.roles_mem hfst
  rw [heq]
  rfl

/-! ### Tokens -/

theorem dot_not_mem_encodeUrl (bs : List UInt8) : '.' ∉ encodeUrl bs := by
  intro h
  obtain ⟨x, hx, heq⟩ := mem_encodeUrl h
  exact (urlChar_ne hx).2.2 heq

/-- The second part of a token is the text of its payload. -/
theorem splitOn_jeton (header : List UInt8) (p : Payload) (signature : List UInt8) :
    ((jeton header p signature).1.toList.splitOn '.')[1]? = some (encodeUrl p.octets) := by
  rw [jeton, String.toList_ofList,
    List.splitOn_append_cons_self_of_not_mem (dot_not_mem_encodeUrl header),
    List.splitOn_append_cons_self_of_not_mem (dot_not_mem_encodeUrl _)]
  rfl

/-- The text of the payload has neither `-` nor `_`: no group of six bits is 62 or 63. -/
def AlphabetCommun (p : Payload) : Prop := ∀ x ∈ sextets (p.octets.map UInt8.toNat), x < 62

instance (p : Payload) : Decidable (AlphabetCommun p) :=
  inferInstanceAs (Decidable (∀ x ∈ sextets (p.octets.map UInt8.toNat), x < 62))

/-- The roles that the client reads in a token. -/
theorem rolesDuPayload_jeton (header : List UInt8) (p : Payload) (signature : List UInt8) :
    AuthService.rolesDuPayload (jeton header p signature)
      = if AlphabetCommun p then some (p.roles.map relu) else none := by
  have hatob : atob (encodeUrl p.octets) = if AlphabetCommun p then
      some ((object (escaped ⟨true, true⟩) p.champs).flatMap byteChars) else none := atob_text _
  rw [AuthService.rolesDuPayload, splitOn_jeton, Option.getD_some, hatob]
  split_ifs with h
  · show (parse _).bind (fun payload => (payload.get _).bind Value.strings) = _
    rw [parse_payload, Option.bind_some, get_roles, Option.bind_some, strings_unitesLues]
  · rfl

theorem map_relu_eq_self_iff (roles : List String) :
    roles.map relu = roles ↔ ∀ role ∈ roles, ∀ c ∈ role.toList, lisible c = true := by
  have hid : roles.map relu = roles.map id ↔ ∀ role ∈ roles, relu role = role :=
    List.map_eq_map_iff
  rw [List.map_id] at hid
  rw [hid]
  exact forall₂_congr fun role _ => relu_eq_self_iff role

/-- **The roles in a token.**  After `handleLoginSuccess` the roles are those of the payload exactly
if its text has neither `-` nor `_` and every character of a role name is read as it was, or if it
has one of the two and the roles were those of the payload before. -/
theorem token_roles_iff (s : Session) (header : List UInt8) (p : Payload)
    (signature : List UInt8) :
    (AuthService.handleLoginSuccess AuthService.rolesDuPayload s
        (jeton header p signature)).userRoles = p.roles
      ↔ (AlphabetCommun p ∧ ∀ role ∈ p.roles, ∀ c ∈ role.toList, lisible c = true)
        ∨ (¬ AlphabetCommun p ∧ s.userRoles = p.roles) := by
  rw [AuthService.handleLoginSuccess, rolesDuPayload_jeton, ← map_relu_eq_self_iff]
  by_cases h : AlphabetCommun p
  · simp only [if_pos h]
    exact ⟨fun heq => Or.inl ⟨h, heq⟩, fun hor => hor.elim And.right fun hn => absurd h hn.1⟩
  · simp only [if_neg h]
    exact ⟨fun heq => Or.inr ⟨h, heq⟩, fun hor => hor.elim (fun hy => absurd hy.1 h) And.right⟩

example : AlphabetCommun (.create 1772358000 1772361600 "jean@articles.fr" ["ROLE_USER"]) := by
  decide +kernel

/-- The `~` of this username is the group 62, so the roles stay those of a new page: none. -/
theorem token_roles_not_read :
    (AuthService.handleLoginSuccess AuthService.rolesDuPayload (AuthService.constructor none)
        (jeton [123, 125] (.create 1772358000 1772361600 "je~n@articles.fr" ["ROLE_USER"])
          [])).userRoles
      ≠ (Payload.create 1772358000 1772361600 "je~n@articles.fr" ["ROLE_USER"]).roles := by
  have hnot : ¬ AlphabetCommun
      (.create 1772358000 1772361600 "je~n@articles.fr" ["ROLE_USER"]) := by
    decide +kernel
  rw [AuthService.handleLoginSuccess, rolesDuPayload_jeton, if_neg hnot]
  decide

end Biblio
