import Biblio.Equiv.StaffAccounts
import Biblio.Roles
import Mathlib.Data.List.Nodup

/-!
# Client and back end on roles

The back end grants `ROLE_ADMIN` and `ROLE_BIBLIO` by the hierarchy (`accorde_admin_iff`,
`accorde_biblio_iff`), and on a JSON array the two tests of the client say the same.  So they agree
whenever the roles arrive as an array, and only then for an account with one of the two roles,
since `includes` throws on an object.

`array_unique` keeps the keys of what it keeps, so they are `0, 1, …, n - 1` exactly when no role
comes for the first time after a repeated one (`keys_eq_range_iff`): the list is one without
repetition followed by repetitions of its elements.
-/

namespace Biblio

/-! ### `array_unique` -/

/-- Every value of the array is kept. -/
theorem mem_map_snd_go {v : String} {l : List String} {k : ℕ} :
    v ∈ (arrayUnique.go k l).map Prod.snd ↔ v ∈ l := by
  induction l generalizing k with
  | nil => simp [arrayUnique.go]
  | cons w l ih =>
    have htail : (∃ a, (a, v) ∈ arrayUnique.go (k + 1) l) ↔ v ∈ l := by
      rw [← ih (k := k + 1), List.mem_map]
      simp
    by_cases hv : v = w
    · simp [arrayUnique.go, hv]
    · simp [arrayUnique.go, hv, htail]

/-- No value is kept twice. -/
theorem nodup_map_snd_go (l : List String) (k : ℕ) :
    ((arrayUnique.go k l).map Prod.snd).Nodup := by
  induction l generalizing k with
  | nil => exact List.nodup_nil
  | cons v l ih =>
    rw [arrayUnique.go, List.map_cons, List.nodup_cons]
    constructor
    · simp
    · exact (ih (k + 1)).sublist (List.filter_sublist.map _)

/-- A kept value is where its key says. -/
theorem getElem_of_mem_go {e : ℕ × String} {l : List String} {k : ℕ}
    (h : e ∈ arrayUnique.go k l) : k ≤ e.1 ∧ l[e.1 - k]? = some e.2 := by
  induction l generalizing k with
  | nil => cases h
  | cons v l ih =>
    rcases List.mem_cons.mp h with rfl | h
    · exact ⟨Nat.le_refl _, by simp⟩
    · obtain ⟨hle, hget⟩ := ih (List.mem_filter.mp h).1
      have hsub : e.1 - k = (e.1 - (k + 1)) + 1 := by omega
      refine ⟨by omega, ?_⟩
      rw [hsub, List.getElem?_cons_succ]
      exact hget

/-- Of a list without repetition, followed by elements already seen or of this list, the first
part is kept. -/
theorem keys_go_append {a b seen : List String} {k : ℕ} (ha : a.Nodup)
    (hseen : ∀ v ∈ a, v ∉ seen) (hb : ∀ v ∈ b, v ∈ seen ∨ v ∈ a) :
    ((arrayUnique.go k (a ++ b)).filter fun e => e.2 ∉ seen).map Prod.fst
      = List.range' k a.length := by
  induction a generalizing seen k with
  | nil =>
    have hnil : (arrayUnique.go k b).filter (fun e => e.2 ∉ seen) = [] := by
      rw [List.filter_eq_nil_iff]
      intro e he
      have hmem := (hb e.2 (mem_of_mem_arrayUnique he)).resolve_right List.not_mem_nil
      simpa using hmem
    rw [List.nil_append, hnil]
    rfl
  | cons v a ih =>
    obtain ⟨hv, ha⟩ := List.nodup_cons.mp ha
    have hnew : v ∉ seen := hseen v (List.mem_cons_self ..)
    have hseen' : ∀ w ∈ a, w ∉ v :: seen := by
      intro w hw hmem
      rcases List.mem_cons.mp hmem with rfl | hmem
      · exact hv hw
      · exact hseen w (List.mem_cons_of_mem _ hw) hmem
    have hb' : ∀ w ∈ b, w ∈ v :: seen ∨ w ∈ a := by
      intro w hw
      have := hb w hw
      simp only [List.mem_cons] at this ⊢
      tauto
    -- what the tail keeps is what comes after `v` and is neither `v` nor seen before
    rw [List.cons_append, arrayUnique.go, List.filter_cons_of_pos (by simpa using hnew),
      List.filter_filter, List.map_cons, List.length_cons, List.range'_succ,
      ← ih (k := k + 1) ha hseen' hb']
    congr 3
    funext e
    rw [Bool.eq_iff_iff]
    simp [and_comm]

/-- The keys that `array_unique` leaves have no gap exactly when no value comes for the first time
after a repeated one. -/
theorem keys_eq_range_iff (l : List String) :
    (arrayUnique l).map Prod.fst = List.range (arrayUnique l).length ↔
      ∃ a b, l = a ++ b ∧ a.Nodup ∧ ∀ v ∈ b, v ∈ a := by
  unfold arrayUnique
  constructor
  · intro hkeys
    -- without gaps, the values kept are the beginning of the list
    have htake : (arrayUnique.go 0 l).map Prod.snd = l.take (arrayUnique.go 0 l).length := by
      refine List.ext_getElem? fun i => ?_
      by_cases hi : i < (arrayUnique.go 0 l).length
      · have hkey : ((arrayUnique.go 0 l).get ⟨i, hi⟩).1 = i := by
          have hget := congrArg (·[i]?) hkeys
          simpa [hi] using hget
        have hval := (getElem_of_mem_go (List.get_mem _ ⟨i, hi⟩)).2
        rw [hkey, Nat.sub_zero] at hval
        rw [List.getElem?_take_of_lt hi, hval, List.getElem?_map, List.getElem?_eq_getElem hi]
        rfl
      · rw [List.getElem?_eq_none (by simpa using hi),
          List.getElem?_eq_none (by simp only [List.length_take]; omega)]
    refine ⟨l.take _, l.drop _, (List.take_append_drop _ l).symm,
      htake ▸ nodup_map_snd_go l 0, fun v hv => ?_⟩
    rw [← htake, mem_map_snd_go]
    exact List.mem_of_mem_drop hv
  · rintro ⟨a, b, rfl, ha, hb⟩
    have hkeys : ((arrayUnique.go 0 (a ++ b)).filter fun e => e.2 ∉ ([] : List String)).map
        Prod.fst = List.range' 0 a.length :=
      keys_go_append ha (fun _ _ => List.not_mem_nil) fun v hv => Or.inr (hb v hv)
    rw [List.filter_eq_self.mpr fun e _ => by simp] at hkeys
    have hlength := congrArg List.length hkeys
    rw [List.length_map, List.length_range'] at hlength
    rw [hkeys, hlength, List.range_eq_range']

/-! ### What the back end grants -/

theorem mem_getRoles {v : String} {roles : List String} :
    v ∈ (getRoles roles).map Prod.snd ↔ v ∈ roles ∨ v = "ROLE_USER" := by
  rw [getRoles, arrayUnique, mem_map_snd_go, List.mem_append, List.mem_singleton]

theorem roleHierarchy_user : roleHierarchy "ROLE_USER" = [] := rfl

/-- The hierarchy is transitive as it is written. -/
theorem roleHierarchy_trans {a b c : String} (hb : b ∈ roleHierarchy a)
    (hc : c ∈ roleHierarchy b) : c ∈ roleHierarchy a := by
  unfold roleHierarchy at hb
  split at hb
  · rcases List.mem_cons.mp hb with rfl | hb
    · exact List.mem_cons_of_mem _ hc
    · rw [List.mem_singleton.mp hb, roleHierarchy_user] at hc
      cases hc
  · rw [List.mem_singleton.mp hb, roleHierarchy_user] at hc
    cases hc
  · cases hb

theorem reflTransGen_roleHierarchy {a b : String} :
    Relation.ReflTransGen (fun a b => b ∈ roleHierarchy a) a b ↔
      a = b ∨ b ∈ roleHierarchy a := by
  constructor
  · intro h
    induction h with
    | refl => exact Or.inl rfl
    | tail _ hbc ih =>
      rcases ih with rfl | hab
      · exact Or.inr hbc
      · exact Or.inr (roleHierarchy_trans hab hbc)
  · rintro (rfl | h)
    · exact .refl
    · exact .single h

/-- `isGranted` decides what the closure of the hierarchy grants. -/
theorem isGranted_iff_accorde (roles : List String) (role : String) :
    isGranted roles role = true ↔ Accorde roles role := by
  unfold isGranted Accorde
  simp only [List.any_eq_true, Bool.or_eq_true, beq_iff_eq, List.contains_iff_mem,
    reflTransGen_roleHierarchy]

theorem accorde_iff {roles : List String} {role : String} :
    Accorde roles role ↔
      ∃ v, (v ∈ roles ∨ v = "ROLE_USER") ∧ (v = role ∨ role ∈ roleHierarchy v) := by
  rw [← isGranted_iff_accorde]
  simp only [isGranted, List.any_eq_true, Bool.or_eq_true, beq_iff_eq, List.contains_iff_mem,
    ← mem_getRoles, List.mem_map]
  constructor
  · rintro ⟨e, he, h⟩
    exact ⟨e.2, ⟨e, he, rfl⟩, h⟩
  · rintro ⟨_, ⟨e, he, rfl⟩, h⟩
    exact ⟨e, he, h⟩

theorem accorde_admin_iff {roles : List String} :
    Accorde roles "ROLE_ADMIN" ↔ "ROLE_ADMIN" ∈ roles := by
  rw [accorde_iff]
  constructor
  · rintro ⟨v, hv, rfl | h⟩
    · exact hv.resolve_right (by decide)
    · unfold roleHierarchy at h
      split at h <;> simp at h
  · intro h
    exact ⟨_, Or.inl h, Or.inl rfl⟩

theorem accorde_biblio_iff {roles : List String} :
    Accorde roles "ROLE_BIBLIO" ↔ "ROLE_BIBLIO" ∈ roles ∨ "ROLE_ADMIN" ∈ roles := by
  rw [accorde_iff]
  constructor
  · rintro ⟨v, hv, rfl | h⟩
    · exact Or.inl (hv.resolve_right (by decide))
    · unfold roleHierarchy at h
      split at h
      · exact Or.inr (hv.resolve_right (by decide))
      · simp at h
      · cases h
  · rintro (h | h)
    · exact ⟨_, Or.inl h, Or.inl rfl⟩
    · exact ⟨_, Or.inl h, Or.inr (by decide)⟩

/-- An administrator is of the staff. -/
theorem isGranted_biblio_of_admin {roles : List String} (h : isGranted roles "ROLE_ADMIN" = true) :
    isGranted roles "ROLE_BIBLIO" = true := by
  rw [isGranted_iff_accorde, accorde_admin_iff] at h
  rw [isGranted_iff_accorde, accorde_biblio_iff]
  exact Or.inr h

/-! ### Both sides -/

/-- On an array, the tests of the client are those of the back end. -/
theorem concorde_of_tableau (s : Signaux) (user : Utilisateur) {roles : List String}
    (h : (getRoles roles).map Prod.fst = List.range (getRoles roles).length) :
    Concorde s user roles := by
  have hroles : (s.loadUserInfo (UserController.me (user.setRoles roles))).userRoles
      = .tableau ((getRoles roles).map Prod.snd) := if_pos h
  have hincludes : ∀ role, role ≠ "ROLE_USER" →
      (((getRoles roles).map Prod.snd).contains role = true ↔ role ∈ roles) := by
    intro role hrole
    rw [List.contains_iff_mem, mem_getRoles]
    exact or_iff_left hrole
  have hadmin := hincludes "ROLE_ADMIN" (by decide)
  have hbiblio := hincludes "ROLE_BIBLIO" (by decide)
  constructor
  · rw [Signaux.isAdmin, hroles, accorde_admin_iff, ← hadmin]
    exact Option.some_inj
  · rw [Signaux.isBiblio, Signaux.isAdmin, hroles, accorde_biblio_iff, ← hadmin, ← hbiblio]
    simp only [RolesJson.includes]
    cases ((getRoles roles).map Prod.snd).contains "ROLE_BIBLIO" <;> simp

/-- On an object the tests throw, which is right where neither role is granted. -/
theorem concorde_objet_iff (s : Signaux) (user : Utilisateur) {roles : List String}
    (h : (getRoles roles).map Prod.fst ≠ List.range (getRoles roles).length) :
    Concorde s user roles ↔ "ROLE_ADMIN" ∉ roles ∧ "ROLE_BIBLIO" ∉ roles := by
  have hroles : (s.loadUserInfo (UserController.me (user.setRoles roles))).userRoles
      = .objet (getRoles roles) := if_neg h
  simp only [Concorde, Signaux.isAdmin, Signaux.isBiblio, hroles, RolesJson.includes,
    accorde_admin_iff, accorde_biblio_iff, reduceCtorEq, false_iff]
  tauto

/-- **Client and back end on roles.**  For any roles given to `setRoles`, the client that has
loaded `/user/me` takes the user for an administrator, or a librarian, exactly when the back end
grants the role, if and only if no role of the list with `ROLE_USER` appended comes for the first
time after a repeated one, or the list has neither of the two roles. -/
theorem roles_agree_iff (s : Signaux) (user : Utilisateur) (roles : List String) :
    Concorde s user roles ↔
      (∃ a b, roles ++ ["ROLE_USER"] = a ++ b ∧ a.Nodup ∧ ∀ v ∈ b, v ∈ a) ∨
        ("ROLE_ADMIN" ∉ roles ∧ "ROLE_BIBLIO" ∉ roles) := by
  rw [← keys_eq_range_iff]
  by_cases h : (getRoles roles).map Prod.fst = List.range (getRoles roles).length
  · exact ⟨fun _ => Or.inl h, fun _ => concorde_of_tableau s user h⟩
  · rw [concorde_objet_iff s user h]
    exact (or_iff_right h).symm

/-- An administrator whose role is given twice: the roles arrive as an object with the keys `0`
and `2`, and `isAdmin` throws. -/
theorem roles_disagree_repeated_admin :
    let user := UtilisateurCrudController.vide.setRoles ["ROLE_ADMIN", "ROLE_ADMIN"]
    (UserController.me user).roles = .objet [(0, "ROLE_ADMIN"), (2, "ROLE_USER")] ∧
      isGranted user.roles "ROLE_ADMIN" = true ∧
      ¬ Concorde ⟨"", .tableau []⟩ UtilisateurCrudController.vide ["ROLE_ADMIN", "ROLE_ADMIN"] := by
  refine ⟨by decide, by decide, fun h => ?_⟩
  have hgranted : Accorde ["ROLE_ADMIN", "ROLE_ADMIN"] "ROLE_ADMIN" :=
    accorde_admin_iff.mpr (List.mem_cons_self ..)
  exact absurd (h.1.mpr hgranted) (by decide)

end Biblio
