import Biblio.Equiv.Ecrit
import Biblio.Equiv.Statement

/-!
# The loan rules over whole runs

`ReglesEmprunts s s'`: if the number of open loans of a book grows from `s` to `s'` it is one
afterwards, and if that of a member grows it is at most five.  Every request keeps to it, from any
tables (`reglesEmprunts_apres`), because a loan is opened only by an insertion or an update whose
row was checked against the other open loans (`reglesEmprunts_of_row`).  So the bounds hold in
every state reached from an empty table `emprunt` (`loan_rules`).
-/

namespace Biblio

open Prog

/-- The loan rules, as a condition on a change of the tables. -/
structure ReglesEmprunts (s s' : Tables) : Prop where
  livre : ∀ l, s.enCoursLivre l < s'.enCoursLivre l → s'.enCoursLivre l = 1
  utilisateur : ∀ u, s.enCoursUtilisateur u < s'.enCoursUtilisateur u →
    s'.enCoursUtilisateur u ≤ 5

theorem ReglesEmprunts.of_le {s s' : Tables}
    (h : ∀ p, s'.emprunt.count p ≤ s.emprunt.count p) : ReglesEmprunts s s' where
  livre l hl := by
    have := h (surLivre l)
    unfold Tables.enCoursLivre at hl
    omega
  utilisateur u hu := by
    have := h (parUtilisateur u)
    unfold Tables.enCoursUtilisateur at hu
    omega

theorem ReglesEmprunts.of_eq {s s' : Tables} (h : s'.emprunt = s.emprunt) :
    ReglesEmprunts s s' :=
  .of_le fun p => Nat.le_of_eq (congrArg (Table.count · p) h)

/-- One row is added to `base`, a part of the loans there were; if it is open, it was checked
against `base`. -/
theorem reglesEmprunts_of_row {s s' : Tables} {base : (EmpruntRow → Bool) → ℕ}
    (row : EmpruntRow) (hle : ∀ p, base p ≤ s.emprunt.count p)
    (hcount : ∀ p, s'.emprunt.count p = base p + (p row).toNat)
    (hok : row.dateRetour = none →
      base (parUtilisateur row.utilisateur) < 5 ∧ base (surLivre row.livre) = 0) :
    ReglesEmprunts s s' where
  livre l hl := by
    have hbound := count_le_of_grows (n := 1) (hle (surLivre l)) (hcount (surLivre l))
      (fun hrow => by
        simp only [surLivre, EmpruntRow.enCours, Bool.and_eq_true, beq_iff_eq,
          Option.isNone_iff_eq_none] at hrow
        have := (hok hrow.2).2
        rw [hrow.1] at this
        omega) hl
    unfold Tables.enCoursLivre at hl ⊢
    omega
  utilisateur u hu :=
    count_le_of_grows (hle (parUtilisateur u)) (hcount (parUtilisateur u))
      (fun hrow => by
        simp only [parUtilisateur, EmpruntRow.enCours, Bool.and_eq_true, beq_iff_eq,
          Option.isNone_iff_eq_none] at hrow
        have := (hok hrow.2).1
        rwa [hrow.1] at this) hu

/-- A loan inserted for a book without open loan and a member with fewer than five. -/
theorem reglesEmprunts_insert {v : Emprunt} {u l : ℕ} {s s₁ s' : Tables}
    (hu : v.utilisateur = some u) (hl : v.livre = some l) (hlibre : s.enCoursLivre l = 0)
    (hquota : s.enCoursUtilisateur u < 5) (hins : exec (.insertEmprunt v) s = some s₁)
    (hrest : s'.emprunt = s₁.emprunt) : ReglesEmprunts s s' := by
  obtain ⟨row, hrow, rfl⟩ := exec_insertEmprunt hins
  obtain rfl : u = row.utilisateur := Option.some.inj (hu.symm.trans hrow.utilisateur)
  obtain rfl : l = row.livre := Option.some.inj (hl.symm.trans hrow.livre)
  refine reglesEmprunts_of_row (Keyed.withKey s.emprunt.next row) (fun p => Nat.le_refl _)
    (fun p => ?_) fun _ => ⟨hquota, hlibre⟩
  rw [hrest]
  exact Table.count_insert _ _ _

/-- **One request.**  Whatever the tables, a request keeps to the loan rules. -/
theorem reglesEmprunts_apres (services : Services) (s : Tables) (r : Requete) :
    ReglesEmprunts s (r.apres services s) := by
  apply apres_induct services s r (.of_eq rfl)
  intro ws s' hecrit hc
  cases hecrit with
  | empruntNew hdate hu hl hexiste hlibre hquota =>
    -- after the insertion, only a reservation may be deleted
    obtain ⟨s₁, hins, hdel⟩ := commit_cons_eq_some hc
    refine reglesEmprunts_insert ?_ ?_ hlibre hquota hins (commit_emprunt_eq ?_ hdel)
    · exact hu
    · exact hl
    · intro w hw
      obtain ⟨id, rfl⟩ := eq_delete_of_mem_toList hw
      exact Relation.noConfusion
  | empruntEdit hrow hdate hu hl hok =>
    -- the validator has counted the other loans of the submitted book and member
    obtain ⟨row, hid, hcomplete, -, hcount⟩ := exec_updateEmprunt hrow (commit_singleton hc)
    refine reglesEmprunts_of_row _ (fun p => s.emprunt.others_le_count _ p) hcount fun hopen => ?_
    exact hok _ _ hcomplete.utilisateur hcomplete.livre (hcomplete.dateRetour.trans hopen)
  | empruntDelete =>
    obtain rfl := Option.some.inj (commit_singleton hc)
    exact .of_le fun p => Table.count_delete_le _ _ p
  | rendreLivre hrow hopen =>
    obtain rfl := Table.key_of_find hrow
    obtain ⟨row, -, hcomplete, -, hcount⟩ := exec_updateEmprunt hrow (commit_singleton hc)
    refine reglesEmprunts_of_row _ (fun p => s.emprunt.others_le_count _ p) hcount fun hopen' => ?_
    -- the row the update leaves is returned
    exact absurd (hcomplete.dateRetour.trans hopen') (Option.some_ne_none _)
  | transformerEnEmprunt hresa hlibre hquota =>
    obtain ⟨s₁, hins, hdel⟩ := commit_cons_eq_some hc
    refine reglesEmprunts_insert rfl rfl hlibre hquota hins (commit_emprunt_eq ?_ hdel)
    simp [Statement.cible]
  | utilisateurDelete | livreDelete =>
    refine .of_eq (commit_emprunt_eq (fun w hw => ?_) hc)
    exact cible_ne_of_mem_deletes Relation.noConfusion Relation.noConfusion hw
  | _ => exact .of_eq ((exec_frame (commit_singleton hc)).emprunt (by simp [Statement.cible]))

/-! ### Runs -/

/-- Every book has at most one open loan, every member at most five. -/
structure EmpruntsBornes (s : Tables) : Prop where
  livre : ∀ l, s.enCoursLivre l ≤ 1
  utilisateur : ∀ u, s.enCoursUtilisateur u ≤ 5

theorem EmpruntsBornes.of_rows_eq_nil {s : Tables} (h : s.emprunt.rows = []) :
    EmpruntsBornes s where
  livre l := by simp [Tables.enCoursLivre, Table.count, h]
  utilisateur u := by simp [Tables.enCoursUtilisateur, Table.count, h]

/-- The bounds survive a change that keeps to the loan rules. -/
theorem EmpruntsBornes.of_regles {s s' : Tables} (hs : EmpruntsBornes s)
    (h : ReglesEmprunts s s') : EmpruntsBornes s' where
  livre l := by
    have hs := hs.livre l
    have h := h.livre l
    omega
  utilisateur u := by
    have hs := hs.utilisateur u
    have h := h.utilisateur u
    omega

theorem empruntsBornes_executer (services : Services) {s : Tables} (hs : EmpruntsBornes s)
    (rs : List Requete) : EmpruntsBornes (executer services s rs) :=
  run_preserves _ (fun s r h => h.of_regles (reglesEmprunts_apres services s r)) rs s hs

/-- **Loan rules.**  From any tables, no request takes the open loans of a book above one nor
those of a member above five; and in every state reached from an empty table `emprunt`, by any
requests, no book has two open loans and no member six. -/
theorem loan_rules (services : Services) :
    (∀ (s : Tables) (r : Requete), ReglesEmprunts s (r.apres services s)) ∧
    (∀ (s : Tables) (rs : List Requete), s.emprunt.rows = [] →
      EmpruntsBornes (executer services s rs)) :=
  ⟨reglesEmprunts_apres services,
    fun _ rs h => empruntsBornes_executer services (.of_rows_eq_nil h) rs⟩

/-- A loan is made, a second one of the same book is refused. -/
theorem loan_rules_two_loans :
    (executer Exemple.services (Exemple.tables .empty .empty)
      [.empruntNew (Exemple.pret 5 1) 0, .empruntNew (Exemple.pret 6 1) 0]).enCoursLivre 1 = 1 ∧
    EmpruntsBornes (executer Exemple.services (Exemple.tables .empty .empty)
      [.empruntNew (Exemple.pret 5 1) 0, .empruntNew (Exemple.pret 6 1) 0]) :=
  ⟨by decide, (loan_rules Exemple.services).2 _ _ rfl⟩

end Biblio
