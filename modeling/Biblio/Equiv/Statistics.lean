import Biblio.Equiv.Deletion
import Biblio.Equiv.LoanRules
import Biblio.Equiv.Roles
import Biblio.Lecture
import Biblio.Store.Group
import Mathlib.Data.String.Basic

/-!
# The statistics

The number of open loans is shown by `StatsController::getStats` and by the dashboard, and it can be
had in two other ways: as the number of books that the API shows as lent, and as the sum of the
loans that the accounts have open.  All agree in every state that requests lead to from tables that
keep to the loan rules and whose loans refer to rows (`statistics_agree`).  The history lists the
loans of the latest six months that have any, by month, and leaves out only earlier ones.
-/

namespace Biblio

open Prog

/-! ### References -/

theorem references_apres (services : Services) {s : Tables} (h : References s) (r : Requete) :
    References (r.apres services s) :=
  apres_induct services s r h fun _ _ _ hc =>
    commit_induct (fun _ _ _ _ hs he => references_exec he hs) h hc

theorem references_executer (services : Services) {s : Tables} (h : References s)
    (rs : List Requete) : References (executer services s rs) :=
  run_preserves (I := References) (servir services)
    (fun _ r hs => references_apres services hs r) rs s h

/-! ### Open loans -/

section Totals

variable {s : Tables}

/-- The open loans that refer to the rows of a table, row by row. -/
theorem sum_count_ref {ρ : Type} [Keyed ρ] (t : Table ρ) (ref : EmpruntRow → ℕ)
    (h : ∀ e ∈ s.emprunt.rows, (t.find (ref e)).isSome = true) :
    (t.rows.map fun r => s.emprunt.count fun e => ref e == Keyed.key r && e.enCours).sum
      = s.emprunt.count EmpruntRow.enCours := by
  -- every open loan is counted at the row it refers to
  have hsum := sum_countP_of_mem EmpruntRow.enCours ref t.nodup s.emprunt.rows fun e he _ => by
    obtain ⟨r, hr, hkey⟩ := (t.isSome_find_iff (ref e)).mp (h e he)
    exact List.mem_map.mpr ⟨r, hr, hkey⟩
  rw [List.map_map] at hsum
  unfold Table.count
  rw [← hsum]
  refine congrArg List.sum (List.map_congr_left fun r _ => ?_)
  exact List.countP_congr fun e _ => by rw [Bool.and_comm]

/-- As many loans are open as books are lent. -/
theorem length_filter_getIsEmprunte (href : References s) (hbornes : EmpruntsBornes s) :
    (s.livre.rows.filter fun l =>
      getIsEmprunte (s.emprunt.select fun e => e.livre == l.id)).length
        = s.emprunt.count EmpruntRow.enCours := by
  rw [← sum_count_ref s.livre EmpruntRow.livre fun e he => (href.emprunt e he).2,
    ← List.countP_eq_length_filter, ← sum_map_boole]
  refine congrArg List.sum (List.map_congr_left fun l _ => ?_)
  -- a book has at most one open loan
  have hle : s.enCoursLivre l.id ≤ 1 := hbornes.livre l.id
  have hiff := getIsEmprunte_eq_false_iff s l.id
  show (if _ then 1 else 0) = s.enCoursLivre l.id
  split_ifs with hflag
  · rw [hflag] at hiff
    have hne : s.enCoursLivre l.id ≠ 0 := fun hzero => Bool.noConfusion (hiff.mpr hzero)
    omega
  · rw [Bool.not_eq_true] at hflag
    exact (hiff.mp hflag).symm

/-- As many loans are open as the accounts have open. -/
theorem sum_compterEnCours (href : References s) :
    (s.utilisateur.rows.map fun u => compterEnCours (getEmprunts u.id s)).sum
      = s.emprunt.count EmpruntRow.enCours := by
  rw [← sum_count_ref s.utilisateur EmpruntRow.utilisateur fun e he => (href.emprunt e he).1]
  refine congrArg List.sum (List.map_congr_left fun u _ => ?_)
  exact compterEnCours_eq s u.id

end Totals

/-! ### The two pages -/

theorem answer_getStats (texteDate : Datetime → String) {s : Tables} {user : ℕ}
    {row : UtilisateurRow} (hrow : s.utilisateur.find user = some row)
    (hadmin : isGranted row.roles "ROLE_ADMIN" = true) :
    (StatsController.getStats texteDate user).answer s =
      .stats ⟨s.livre.rows.length, s.utilisateur.rows.length, s.emprunt.count EmpruntRow.enCours,
        StatsController.empruntsParMois texteDate s⟩ := by
  simp only [StatsController.getStats, answer, read_bind, alone_query, hrow, hadmin]
  rfl

theorem answer_dashboard {b : Base} {user : ℕ} {row : UtilisateurRow}
    (hrow : b.tables.utilisateur.find user = some row)
    (hbiblio : isGranted row.roles "ROLE_BIBLIO" = true) :
    (DashboardController.index user).answer b =
      some ⟨b.tables.livre.rows.length, b.tables.utilisateur.rows.length,
        b.tables.emprunt.count EmpruntRow.enCours, b.categorie.rows.length⟩ := by
  simp only [DashboardController.index, answer, read_bind, alone_query, hrow, hbiblio]
  rfl

theorem empruntsParMois_eq (texteDate : Datetime → String) (s : Tables) :
    StatsController.empruntsParMois texteDate s
      = groupCount 6 (s.emprunt.rows.map (StatsController.mois texteDate)) := by
  unfold StatsController.empruntsParMois groupCount
  rfl

/-- **Statistics.**  In every state that requests lead to from tables that keep to the loan rules:
an administrator gets the same totals from the API and from the dashboard; as many loans are open as
books are shown as lent, and as the accounts have open; and the history has the latest six months
with loans, in descending order, with the numbers of their loans. -/
theorem statistics_agree (services : Services) (texteDate : Datetime → String) (s : Tables)
    (href : References s) (hbornes : EmpruntsBornes s) (rs : List Requete) (b : Base)
    (hb : b.tables = executer services s rs) (user : ℕ) (row : UtilisateurRow)
    (hrow : b.tables.utilisateur.find user = some row)
    (hadmin : isGranted row.roles "ROLE_ADMIN" = true) :
    ∃ st c, (StatsController.getStats texteDate user).answer b.tables = .stats st ∧
      (DashboardController.index user).answer b = some c ∧
      st.livres = c.nbLivres ∧ st.adherents = c.nbAdherents ∧
      st.empruntsEnCours = c.nbEmpruntsEnCours ∧
      st.empruntsEnCours
        = (b.tables.livre.rows.filter fun l => (b.serialiser l).isEmprunte).length ∧
      st.empruntsEnCours
        = (b.tables.utilisateur.rows.map fun u => compterEnCours (getEmprunts u.id b.tables)).sum ∧
      Groups 6 (b.tables.emprunt.rows.map (StatsController.mois texteDate)) st.history := by
  have hbiblio := isGranted_biblio_of_admin hadmin
  have href' : References b.tables := by
    rw [hb]
    exact references_executer services href rs
  have hbornes' : EmpruntsBornes b.tables := by
    rw [hb]
    exact empruntsBornes_executer services hbornes rs
  refine ⟨_, _, answer_getStats texteDate hrow hadmin, answer_dashboard hrow hbiblio, rfl, rfl, rfl,
    (length_filter_getIsEmprunte href' hbornes').symm, (sum_compterEnCours href').symm, ?_⟩
  rw [empruntsParMois_eq]
  exact groupCount_spec 6 _

/-- A loan is made and another one is returned: one loan is open. -/
theorem statistics_agree_two_loans :
    let texteDate := fun _ : Datetime => "1970-01-01 00:00:00"
    let rs := [Requete.empruntNew (Exemple.pret 5 1) 0, .empruntNew (Exemple.pret 6 2) 0,
      .rendreLivre 1 0]
    let s := executer Exemple.services (Exemple.tables .empty .empty) rs
    let b : Base := { Exemple.base .empty .empty with tables := s }
    ∃ st, (StatsController.getStats texteDate 3).answer s = .stats st ∧ st.empruntsEnCours = 1 ∧
      (s.livre.rows.filter fun l => (b.serialiser l).isEmprunte).length = 1 := by
  intro texteDate rs s b
  have href : References (Exemple.tables .empty .empty) := by
    constructor
    · intro e he
      cases he
    · intro r hr
      cases hr
  obtain ⟨st, c, hst, -, -, -, -, hlivres, -⟩ :=
    statistics_agree Exemple.services texteDate (Exemple.tables .empty .empty) href
      (.of_rows_eq_nil rfl) rs b rfl 3 (Exemple.compte 3 "admin@articles.fr" ["ROLE_ADMIN"] "admin")
      (by decide) (by decide)
  have hone : (s.livre.rows.filter fun l => (b.serialiser l).isEmprunte).length = 1 := by
    decide
  exact ⟨st, hst, hlivres.trans hone, hone⟩

end Biblio
