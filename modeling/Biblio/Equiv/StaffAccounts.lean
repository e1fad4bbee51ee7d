import Biblio.Equiv.Accounts

/-!
# Accounts of the staff and requests of librarians

What the pages of `UtilisateurCrudController` let a librarian do, a person granted `ROLE_BIBLIO`
but not `ROLE_ADMIN`, to the rows of the staff (`personnel`: stored roles with `ROLE_ADMIN` or
`ROLE_BIBLIO`).  He cannot delete an account, and can give no role but `ROLE_USER`, so staff rows
never appear (`mem_of_mem_apres`).  But `updateEntity` looks at the roles of the entity, into which
the form has already been bound, and not at those of the row: an edition of a staff row that the
form accepts (`EditAcceptee`) goes through, and takes its roles away.

So a run of such requests leaves the staff rows as they were exactly when none of its requests is
an accepted edition of a staff row (`personnelIntact_iff_horsPersonnel`).
-/

namespace Biblio

open Prog UtilisateurCrudController

/-- A row of the staff. -/
def personnel (r : UtilisateurRow) : Prop := "ROLE_ADMIN" ∈ r.roles ∨ "ROLE_BIBLIO" ∈ r.roles

/-- The rows of the staff are the same in both tables: none is changed, removed or added. -/
def PersonnelIntact (s s' : Tables) : Prop :=
  ∀ r, personnel r → (r ∈ s'.utilisateur.rows ↔ r ∈ s.utilisateur.rows)

/-- A request on the accounts by a librarian who is not an administrator. -/
def ParBibliothecaire : Requete → Prop
  | .utilisateurNew acteur _ _ _ | .utilisateurEdit acteur _ _ _ _
  | .utilisateurDelete acteur _ =>
    isGranted acteur "ROLE_BIBLIO" = true ∧ isGranted acteur "ROLE_ADMIN" = false
  | _ => False

/-- A request is not an accepted edition of a staff row. -/
def HorsPersonnel (services : Services) (s : Tables) : Requete → Prop
  | .utilisateurEdit acteur entityId form sel today => ∀ row,
      s.utilisateur.find entityId = some row →
        EditAcceptee services s acteur form sel today row → ¬ personnel row
  | _ => True

/-! ### The roles a librarian can give -/

theorem rolesChoices_of_not_admin {acteur : List String}
    (h : isGranted acteur "ROLE_ADMIN" = false) : rolesChoices acteur = ["ROLE_USER"] := by
  simp [rolesChoices, h]

/-- Among the roles offered to a librarian, none is a staff role. -/
theorem not_personnel_of_choices {acteur : List String}
    (h : isGranted acteur "ROLE_ADMIN" = false) {row : UtilisateurRow}
    (hroles : ∀ role ∈ row.roles, role ∈ rolesChoices acteur) : ¬ personnel row := by
  rw [rolesChoices_of_not_admin h] at hroles
  rintro (hstaff | hstaff)
  · exact absurd (List.mem_singleton.mp (hroles _ hstaff)) (by decide)
  · exact absurd (List.mem_singleton.mp (hroles _ hstaff)) (by decide)

/-- `array_unique` keeps values of the array. -/
theorem mem_of_mem_arrayUnique {e : ℕ × String} : ∀ {l : List String} {k : ℕ},
    e ∈ arrayUnique.go k l → e.2 ∈ l
  | [], _, h => by cases h
  | v :: l, k, h => by
    rcases List.mem_cons.mp h with rfl | h
    · exact List.mem_cons_self ..
    · exact List.mem_cons_of_mem _ (mem_of_mem_arrayUnique (List.mem_filter.mp h).1)

theorem inArray_getRoles_eq_false {role : String} {roles : List String} (hrole : role ∉ roles)
    (huser : role ≠ "ROLE_USER") : inArray role (getRoles roles) = false := by
  rw [inArray, List.any_eq_false]
  intro e he hrole'
  obtain rfl : e.2 = role := by simpa using hrole'
  rcases List.mem_append.mp (mem_of_mem_arrayUnique he) with h | h
  · exact hrole h
  · exact huser (List.mem_singleton.mp h)

/-! ### One request -/

variable (services : Services) {s : Tables}

/-- **No row gains a staff role.**  The staff rows after a librarian's request were there
before. -/
theorem mem_of_mem_apres {r : Requete} (hr : ParBibliothecaire r) {row : UtilisateurRow}
    (hstaff : personnel row) : row ∈ (r.apres services s).utilisateur.rows →
      row ∈ s.utilisateur.rows := by
  apply apres_induct (P := fun s' => row ∈ s'.utilisateur.rows → _) services s r id
  intro ws s' hecrit hc hrow
  cases hecrit with
  | @utilisateurNew acteur form sel today password hroles =>
    obtain ⟨new, hcomplete, -, -, -, hmem⟩ := exec_insertUtilisateur (commit_singleton hc)
    rcases (hmem row).mp hrow with rfl | h
    · -- the row has the roles of the form, which were among those offered
      have heq : form.roles = row.roles := hcomplete.roles
      exact absurd hstaff (not_personnel_of_choices hr.2 (heq ▸ hroles))
    · exact h
  | @utilisateurEdit acteur entityId form sel today old password hfind hroles =>
    obtain rfl := Table.key_of_find hfind
    obtain ⟨new, hcomplete, -, -, -, hmem⟩ := exec_updateUtilisateur hfind (commit_singleton hc)
    rcases (hmem row).mp hrow with rfl | h
    · have heq : form.roles = row.roles := hcomplete.roles
      exact absurd hstaff (not_personnel_of_choices hr.2 (heq ▸ hroles))
    · exact h.1
  | utilisateurDelete hadmin => exact absurd hadmin (by rw [hr.2]; exact Bool.false_ne_true)
  | _ => exact hr.elim

/-- A librarian's request that is not an accepted edition of a staff row keeps the staff rows. -/
theorem mem_apres_of_mem {r : Requete} (hr : ParBibliothecaire r)
    (hok : HorsPersonnel services s r) {row : UtilisateurRow} (hstaff : personnel row)
    (hrow : row ∈ s.utilisateur.rows) : row ∈ (r.apres services s).utilisateur.rows := by
  apply apres_induct (P := fun s' => row ∈ s'.utilisateur.rows) services s r hrow
  intro ws s' hecrit hc
  cases hecrit with
  | utilisateurNew =>
    obtain ⟨new, -, -, -, -, hmem⟩ := exec_insertUtilisateur (commit_singleton hc)
    exact (hmem row).mpr (Or.inr hrow)
  | @utilisateurEdit acteur entityId form sel today old password hfind hroles hnull hviol
      hpassword =>
    have hexec := commit_singleton hc
    have hnot : ¬ personnel old := hok old hfind
      { roles := by simpa using hroles
        nonNull := hnull
        violations := hviol
        enregistrable := ⟨password, motDePasse_eq_some services hpassword, by rw [hexec]; rfl⟩ }
    obtain rfl := Table.key_of_find hfind
    obtain ⟨new, -, -, -, -, hmem⟩ := exec_updateUtilisateur hfind hexec
    refine (hmem row).mpr (Or.inr ⟨hrow, fun hid => hnot ?_⟩)
    -- the row of this id is the one edited
    rw [← s.utilisateur.eq_of_key_eq hrow (Table.mem_of_find hfind) hid]
    exact hstaff
  | utilisateurDelete hadmin => exact absurd hadmin (by rw [hr.2]; exact Bool.false_ne_true)
  | _ => exact hr.elim

/-- An accepted edition by a librarian is saved. -/
theorem after_edit_of_acceptee {acteur : List String} {entityId : ℕ} {form : Form} {sel : ℕ}
    {today : Date} {row : UtilisateurRow}
    (hacteur : isGranted acteur "ROLE_BIBLIO" = true ∧ isGranted acteur "ROLE_ADMIN" = false)
    (hrow : s.utilisateur.find entityId = some row)
    (h : EditAcceptee services s acteur form sel today row) :
    ∃ password s', exec (.updateUtilisateur row.id row
        { form.bind row.toEntity with password := some password }) s = some s' ∧
      (edit services acteur entityId form sel today).after s = s' := by
  obtain ⟨password, hpassword, hsome⟩ := h.enregistrable
  obtain ⟨s', hexec⟩ := Option.isSome_iff_exists.mp hsome
  refine ⟨password, s', hexec, ?_⟩
  have hchoices : ∀ role ∈ form.roles, role ∈ ["ROLE_USER"] := by
    rw [← rolesChoices_of_not_admin hacteur.2]
    simpa using h.roles
  -- the guard of `updateEntity` sees the submitted roles, whatever the row has
  have hguard : (!isGranted acteur "ROLE_ADMIN" && (inArray "ROLE_ADMIN" (getRoles form.roles)
      || inArray "ROLE_BIBLIO" (getRoles form.roles))) = false := by
    rw [inArray_getRoles_eq_false (fun hmem => absurd (hchoices _ hmem) (by decide)) (by decide),
      inArray_getRoles_eq_false (fun hmem => absurd (hchoices _ hmem) (by decide)) (by decide)]
    simp
  -- the page lets the form through, then `updateEntity` does
  unfold edit
  rw [if_neg (by simp [hacteur.1])]
  simp only [read_bind, after_query, hrow]
  rw [if_neg h.nonNull, if_neg (by simp [h.roles]), if_pos h.violations]
  unfold updateEntity
  dsimp only
  rw [Form.bind_roles, Form.bind_password, if_neg (by rw [hguard]; exact Bool.false_ne_true)]
  unfold motDePasse at hpassword
  split_ifs at hpassword with htruthy
  · rw [if_pos htruthy]
    simp only [hpassword]
    exact after_flush_singleton hexec _
  · rw [if_neg htruthy]
    obtain rfl := Option.some.inj hpassword
    exact after_flush_singleton hexec _

/-- **One request.**  An accepted edition of a staff row takes it out of the staff. -/
theorem exists_lost_of_edit {r : Requete} (hr : ParBibliothecaire r)
    (hedit : ¬ HorsPersonnel services s r) : ∃ row, personnel row ∧ row ∈ s.utilisateur.rows ∧
      row ∉ (r.apres services s).utilisateur.rows := by
  cases r with
  | utilisateurEdit acteur entityId form sel today =>
    simp only [HorsPersonnel, not_forall, not_not] at hedit
    obtain ⟨row, hrow, hok, hstaff⟩ := hedit
    refine ⟨row, hstaff, Table.mem_of_find hrow, ?_⟩
    obtain ⟨password, s', hexec, hafter⟩ := after_edit_of_acceptee services hr hrow hok
    obtain rfl := Table.key_of_find hrow
    obtain ⟨new, hcomplete, -, -, -, hmem⟩ := exec_updateUtilisateur hrow hexec
    show row ∉ ((edit services acteur (Keyed.key row) form sel today).after s).utilisateur.rows
    rw [hafter, hmem]
    rintro (rfl | ⟨-, hid⟩)
    · -- were it still there, it would have the submitted roles
      have heq : form.roles = row.roles := hcomplete.roles
      have hroles := hok.roles
      rw [heq] at hroles
      exact not_personnel_of_choices hr.2 (by simpa using hroles) hstaff
    · exact hid rfl
  | _ => exact absurd trivial hedit

/-! ### Runs -/

/-- Staff rows after a run of librarians' requests were there before it. -/
theorem mem_of_mem_executer {row : UtilisateurRow} (hstaff : personnel row) :
    ∀ (rs : List Requete) (s : Tables), (∀ r ∈ rs, ParBibliothecaire r) →
      row ∈ (executer services s rs).utilisateur.rows → row ∈ s.utilisateur.rows
  | [], _, _, h => h
  | r :: rs, s, hrs, h => by
    have hlater := mem_of_mem_executer hstaff rs (r.apres services s)
      (fun r' hr' => hrs r' (List.mem_cons_of_mem _ hr')) h
    exact mem_of_mem_apres services (hrs r (List.mem_cons_self ..)) hstaff hlater

/-- **Staff accounts.**  A run of account requests by librarians who are not administrators leaves
the staff rows exactly as they were, neither changed nor removed nor joined by others, if and only
if none of the requests is an accepted edition of a staff row. -/
theorem personnelIntact_iff_horsPersonnel : ∀ (rs : List Requete) (s : Tables),
    (∀ r ∈ rs, ParBibliothecaire r) →
      (PersonnelIntact s (executer services s rs) ↔
        Along (servir services) (HorsPersonnel services) s rs)
  | [], s, _ => ⟨fun _ => trivial, fun _ _ _ => Iff.rfl⟩
  | r :: rs, s, hrs => by
    have hr := hrs r (List.mem_cons_self ..)
    have hrs' : ∀ r' ∈ rs, ParBibliothecaire r' := fun r' hr' => hrs r' (List.mem_cons_of_mem _ hr')
    have ih := personnelIntact_iff_horsPersonnel rs (r.apres services s) hrs'
    constructor
    · intro hintact
      have hok : HorsPersonnel services s r := by
        -- a staff row lost at the first request would not come back
        by_contra hedit
        obtain ⟨row, hstaff, hrow, hlost⟩ := exists_lost_of_edit services hr hedit
        exact hlost (mem_of_mem_executer services hstaff rs _ hrs' ((hintact row hstaff).mpr hrow))
      refine ⟨hok, ih.mp fun row hstaff => ⟨mem_of_mem_executer services hstaff rs _ hrs', ?_⟩⟩
      intro hrow
      exact (hintact row hstaff).mpr (mem_of_mem_apres services hr hstaff hrow)
    · rintro ⟨hok, hlater⟩ row hstaff
      have hlater := ih.mpr hlater row hstaff
      constructor
      · intro hrow
        exact mem_of_mem_apres services hr hstaff (hlater.mp hrow)
      · intro hrow
        exact hlater.mpr (mem_apres_of_mem services hr hok hstaff hrow)

/-- A librarian edits the account of a member. -/
theorem personnelIntact_edit_member :
    PersonnelIntact (Exemple.tables .empty .empty)
      (executer Exemple.services (Exemple.tables .empty .empty)
        [.utilisateurEdit ["ROLE_BIBLIO"] 5 (Exemple.fiche "lucy@articles.fr" none nofun) 0 1]) := by
  refine (personnelIntact_iff_horsPersonnel Exemple.services _ _ ?_).mpr ⟨?_, trivial⟩
  · intro r hr
    rw [List.mem_singleton.mp hr]
    exact ⟨by decide, by decide⟩
  · intro row hrow _
    obtain rfl : Exemple.compte 5 "adherent0@articles.fr" ["ROLE_USER"] "password" = row :=
      Option.some.inj hrow
    unfold personnel
    decide

/-- A librarian edits the account of the administrator: it gets the password he types and loses
its role. -/
theorem not_personnelIntact_edit_admin :
    ParBibliothecaire
      (.utilisateurEdit ["ROLE_BIBLIO"] 3 (Exemple.fiche "admin@articles.fr" (some "biblio") (by decide)) 0 1) ∧
    ¬ PersonnelIntact (Exemple.tables .empty .empty)
      (executer Exemple.services (Exemple.tables .empty .empty) [.utilisateurEdit ["ROLE_BIBLIO"] 3
        (Exemple.fiche "admin@articles.fr" (some "biblio") (by decide)) 0 1]) ∧
    (executer Exemple.services (Exemple.tables .empty .empty) [.utilisateurEdit ["ROLE_BIBLIO"] 3
      (Exemple.fiche "admin@articles.fr" (some "biblio") (by decide)) 0 1]).utilisateur.find 3
      = some (Exemple.compte 3 "admin@articles.fr" ["ROLE_USER"] "biblio") := by
  refine ⟨⟨by decide, by decide⟩, fun h => ?_, by decide⟩
  have hadmin := (h (Exemple.compte 3 "admin@articles.fr" ["ROLE_ADMIN"] "admin")
    (Or.inl (by decide))).mpr (by decide)
  exact absurd hadmin (by decide)

end Biblio
