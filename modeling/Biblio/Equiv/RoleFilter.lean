import Biblio.Equiv.Roles

/-!
# The list of accounts and the guard of their page

A librarian is shown the accounts whose column `roles` matches neither of two patterns, and may save
those whose decoded roles contain neither of two names.  For lists of the three roles of the
application the two agree (`role_filter_agrees`), although an underscore in a pattern stands for any
character and the pattern is looked for in the text of the whole list.

A pattern begins with a quotation mark, so a match can only begin at one: an opening one, where the
name after it decides (`matchTokens_quoted`), or a closing one, which a comma or a bracket follows.
-/

namespace Biblio

open Prog Like UtilisateurCrudController

/-- The role names of the application. -/
def rolesConnus : List String := ["ROLE_USER", "ROLE_BIBLIO", "ROLE_ADMIN"]

/-- The tokens of the pattern of a role, after its first `%`. -/
def jetons (role : String) : List Like.Token := tokens (("\"" ++ role ++ "\"%").toList)

/-! ### One role of the list -/

/-- The text of a role is the role between quotation marks. -/
theorem quoted_of_connu {r : String} (hr : r ∈ rolesConnus) :
    JsonText.quoted (JsonText.escaped ⟨false, false⟩) r = '"' :: (r.toList ++ ['"']) := by
  have htable : ∀ r ∈ rolesConnus,
      JsonText.quoted (JsonText.escaped ⟨false, false⟩) r = '"' :: (r.toList ++ ['"']) := by decide
  exact htable r hr

theorem ne_quote_of_connu {r : String} (hr : r ∈ rolesConnus) : ∀ c ∈ r.toList, c ≠ '"' := by
  have htable : ∀ r ∈ rolesConnus, r.toList.all (fun c => decide (c ≠ '"')) = true := by decide
  exact fun c hc => of_decide_eq_true (List.all_eq_true.mp (htable r hr) c hc)

section Pattern

variable {role : String} (hrole : role = "ROLE_ADMIN" ∨ role = "ROLE_BIBLIO")

include hrole

theorem jetons_eq : ∃ ts, jetons role = .char '"' :: .char 'R' :: ts := by
  rcases hrole with rfl | rfl
  · exact ⟨_, rfl⟩
  · exact ⟨_, rfl⟩

/-- No match begins before the next quotation mark. -/
theorem matchTokens_any_before_quote {u : List Char} (hu : ∀ c ∈ u, c ≠ '"') (v : List Char) :
    matchTokens id (.any :: jetons role) (u ++ v) = matchTokens id (.any :: jetons role) v := by
  obtain ⟨ts, hts⟩ := jetons_eq hrole
  rw [hts]
  exact matchTokens_any_skip id hu v

/-- At an opening quotation mark the name decides, the underscore included. -/
theorem matchTokens_quoted {r : String} (hr : r ∈ rolesConnus) (v : List Char) :
    matchTokens id (jetons role) ('"' :: (r.toList ++ '"' :: v)) = (r == role) := by
  have hany : matchTokens id [.any] v = true :=
    (matchTokens_any_iff id).mpr ⟨[], List.nil_suffix, rfl⟩
  simp only [rolesConnus, List.mem_cons, List.not_mem_nil, or_false] at hr
  rcases hrole with rfl | rfl
  · rcases hr with rfl | rfl | rfl
    · rfl
    · rfl
    · exact hany
  · rcases hr with rfl | rfl | rfl
    · rfl
    · exact hany
    · rfl

/-- A role of the list, in front of what follows it there. -/
theorem matchTokens_any_quoted {r : String} (hr : r ∈ rolesConnus) {v : List Char}
    (hv : v.head? = some ',' ∨ v.head? = some ']') :
    matchTokens id (.any :: jetons role)
        (JsonText.quoted (JsonText.escaped ⟨false, false⟩) r ++ v)
      = (r == role || matchTokens id (.any :: jetons role) v) := by
  obtain ⟨ts, hts⟩ := jetons_eq hrole
  -- no match begins at the closing quotation mark
  have hclosing : matchTokens id (jetons role) ('"' :: v) = false := by
    cases v with
    | nil => simp at hv
    | cons c v =>
      rw [hts]
      simp only [List.head?_cons, Option.some.injEq] at hv
      rcases hv with rfl | rfl <;> rfl
  have hinside := matchTokens_any_before_quote hrole (ne_quote_of_connu hr) ('"' :: v)
  rw [quoted_of_connu hr, List.cons_append, List.append_assoc, List.singleton_append,
    matchTokens_any_cons, matchTokens_quoted hrole hr, hinside, matchTokens_any_cons, hclosing,
    Bool.false_or]

/-! ### The whole list -/

theorem matchTokens_any_joined (r : String) (roles : List String)
    (hroles : ∀ x ∈ r :: roles, x ∈ rolesConnus) :
    matchTokens id (.any :: jetons role)
        (JsonText.joined ((r :: roles).map
          (JsonText.quoted (JsonText.escaped ⟨false, false⟩))) ++ [']'])
      = (r :: roles).contains role := by
  obtain ⟨ts, hts⟩ := jetons_eq hrole
  have hr := hroles r (List.mem_cons_self ..)
  induction roles generalizing r with
  | nil =>
    have htext : JsonText.joined ([r].map (JsonText.quoted (JsonText.escaped ⟨false, false⟩)))
        = JsonText.quoted (JsonText.escaped ⟨false, false⟩) r := by simp [JsonText.joined]
    have hend : matchTokens id (.any :: jetons role) [']'] = false := by
      rw [hts]
      rfl
    rw [htext, matchTokens_any_quoted hrole hr (Or.inr rfl), hend, Bool.or_false]
    rw [List.contains_cons, List.contains_nil, Bool.or_false]
    exact BEq.comm
  | cons r' roles ih =>
    have hcomma : ∀ v, matchTokens id (.any :: jetons role) (',' :: v)
        = matchTokens id (.any :: jetons role) v :=
      matchTokens_any_before_quote hrole (List.forall_mem_singleton.mpr (by decide))
    rw [List.map_cons, List.map_cons, JsonText.joined_cons_cons, List.append_assoc,
      matchTokens_any_quoted hrole hr (Or.inl rfl), List.cons_append, hcomma, ← List.map_cons,
      ih r' (fun x hx => hroles x (List.mem_cons_of_mem _ hx)) (hroles r' (by simp)),
      List.contains_cons (a := r)]
    exact congrArg (· || _) BEq.comm

/-- **The pattern of a role.**  It is found in the column exactly if the role is in the list. -/
theorem like_colonneRoles {roles : List String} (hroles : ∀ r ∈ roles, r ∈ rolesConnus) :
    like id (colonneRoles roles) ("%\"" ++ role ++ "\"%") = roles.contains role := by
  obtain ⟨ts, hts⟩ := jetons_eq hrole
  have htokens : tokens ("%\"" ++ role ++ "\"%").toList = .any :: jetons role := by
    rcases hrole with rfl | rfl <;> rfl
  have hopen : ∀ v, matchTokens id (.any :: jetons role) ('[' :: v)
      = matchTokens id (.any :: jetons role) v :=
    matchTokens_any_before_quote hrole (List.forall_mem_singleton.mpr (by decide))
  rw [like, htokens, colonneRoles, String.toList_ofList, JsonText.list, hopen]
  cases roles with
  | nil =>
    rw [hts]
    rfl
  | cons r roles => exact matchTokens_any_joined hrole r roles hroles

end Pattern

/-! ### The guard -/

/-- The `AccessDeniedException` of `updateEntity`. -/
def accesRefuse : Reponse :=
  .exception 403 "Vous n'avez pas les droits pour modifier cet utilisateur."

/-- `in_array` on the roles of an account finds the stored ones. -/
theorem inArray_getRoles {role : String} (hrole : role ≠ "ROLE_USER") (roles : List String) :
    inArray role (getRoles roles) = roles.contains role := by
  rw [Bool.eq_iff_iff, List.contains_iff_mem, inArray, List.any_eq_true]
  have hmem : role ∈ (getRoles roles).map Prod.snd ↔ role ∈ roles ∨ role = "ROLE_USER" :=
    mem_getRoles
  rw [List.mem_map] at hmem
  constructor
  · rintro ⟨e, he, heq⟩
    exact (hmem.mp ⟨e, he, beq_iff_eq.mp heq⟩).resolve_right hrole
  · intro h
    obtain ⟨e, he, heq⟩ := hmem.mpr (Or.inl h)
    exact ⟨e, he, beq_iff_eq.mpr heq⟩

/-- `updateEntity` refuses an account for its roles exactly where its test says so: nothing else
that it answers is this refusal. -/
theorem updateEntity_refuse_iff (services : Services) {acteur : List String}
    (hacteur : isGranted acteur "ROLE_ADMIN" = false) (row : UtilisateurRow) (u : Utilisateur)
    (sel : ℕ) (s : Tables) :
    (updateEntity services acteur row u sel).answer s = accesRefuse ↔
      (inArray "ROLE_ADMIN" (getRoles u.roles)
        || inArray "ROLE_BIBLIO" (getRoles u.roles)) = true := by
  have hsave : ∀ ws : List Statement,
      (flush ws fun b => done (apresFlush b) : Handler).answer s ≠ accesRefuse := by
    intro ws h
    unfold answer at h
    cases hc : commit ws s with
    | none =>
      rw [alone_flush_none hc] at h
      cases h
    | some s' =>
      rw [alone_flush_some hc] at h
      cases h
  unfold updateEntity
  dsimp only
  rw [hacteur, Bool.not_false, Bool.true_and]
  split_ifs with hstaff htruthy
  · exact iff_of_true rfl hstaff
  · refine iff_of_false ?_ hstaff
    split
    · intro h
      cases h
    · exact hsave _
  · exact iff_of_false (hsave _) hstaff

/-- **The filter on roles.**  For every stored list of the three roles, of any length, and every
person who is not an administrator: of the accounts that EasyAdmin lists, the page INDEX keeps
exactly those whose roles the test of `updateEntity` does not refuse. -/
theorem role_filter_agrees (services : Services) (acteur : List String)
    (hacteur : isGranted acteur "ROLE_ADMIN" = false) (parent : UtilisateurRow → Bool)
    (row : UtilisateurRow) (hroles : ∀ r ∈ row.roles, r ∈ rolesConnus) (u : Utilisateur) (sel : ℕ)
    (s : Tables) :
    createIndexQueryBuilder parent acteur row = true ↔
      parent row = true ∧
        (updateEntity services acteur row (u.setRoles row.roles) sel).answer s ≠ accesRefuse := by
  have hadmin : like id (colonneRoles row.roles) "%\"ROLE_ADMIN\"%"
      = row.roles.contains "ROLE_ADMIN" := like_colonneRoles (Or.inl rfl) hroles
  have hbiblio : like id (colonneRoles row.roles) "%\"ROLE_BIBLIO\"%"
      = row.roles.contains "ROLE_BIBLIO" := like_colonneRoles (Or.inr rfl) hroles
  rw [ne_eq, updateEntity_refuse_iff services hacteur, Utilisateur.setRoles,
    inArray_getRoles (by decide), inArray_getRoles (by decide), createIndexQueryBuilder, hacteur,
    hadmin, hbiblio]
  cases row.roles.contains "ROLE_ADMIN" <;> simp

/-- A librarian is shown a member, and not an account whose second role is that of an
administrator. -/
theorem role_filter_agrees_two_accounts :
    let adherent := Exemple.compte 5 "adherent0@articles.fr" ["ROLE_USER", "ROLE_USER"] "password"
    let admin := Exemple.compte 3 "admin@articles.fr" ["ROLE_USER", "ROLE_ADMIN"] "admin"
    (updateEntity Exemple.services ["ROLE_BIBLIO"] adherent (vide.setRoles adherent.roles)
      0).answer (Exemple.tables .empty .empty) ≠ accesRefuse ∧
    createIndexQueryBuilder (fun _ => true) ["ROLE_BIBLIO"] admin = false := by
  intro adherent admin
  constructor
  · exact ((role_filter_agrees Exemple.services ["ROLE_BIBLIO"] (by decide) (fun _ => true) adherent
      (by decide) vide 0 _).mp (by decide)).2
  · rw [Bool.eq_false_iff]
    intro h
    exact ((role_filter_agrees Exemple.services ["ROLE_BIBLIO"] (by decide) (fun _ => true) admin
      (by decide) vide 0 (Exemple.tables .empty .empty)).mp h).2 (by decide)

end Biblio
