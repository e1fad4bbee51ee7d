import Biblio.Base
import Biblio.Equiv.Statement

/-!
# Deletions and references

Loans restrict the deletion of a book or an account, its reservations are removed with it in one
unit of work, and the database deletes the links of a book.  `Base.Valides` says that every loan,
every reservation and every link refers to rows.  Every statement keeps it (`valides_execBase`), so
it holds in every interleaving of requests.

The deletions themselves are computed: `commit_suppression` is the unit of work on the four tables,
`commit_prets` what it becomes on the whole database.
-/

namespace Biblio

open Prog

/-! ### References of the four tables -/

/-- Every loan and every reservation refers to an account and a book. -/
structure References (s : Tables) : Prop where
  emprunt : ∀ e ∈ s.emprunt.rows, s.hasUtilisateur e.utilisateur = true ∧ s.hasLivre e.livre = true
  reservations : ∀ r ∈ s.reservations.rows,
    s.hasUtilisateur r.utilisateur = true ∧ s.hasLivre r.livre = true

/-- The value a column gets from an `UPDATE` meets what the row's value and the new one meet. -/
theorem of_changed {β : Type} [DecidableEq β] {p : β → Bool} {original new current : β}
    (hnew : new = original ∨ p new = true) (hcurrent : p current = true) :
    p (changed original new current) = true := by
  unfold changed
  split_ifs with heq
  · exact hcurrent
  · exact hnew.resolve_left heq

section Exec

variable {w : Statement} {s s' : Tables} (h : exec w s = some s')

include h

/-- A book stays unless it is deleted. -/
theorem hasLivre_exec {id : ℕ} (hid : s.hasLivre id = true) (hw : w ≠ .deleteLivre id) :
    s'.hasLivre id = true := by
  by_cases hcible : w.cible = .livre
  · cases w with
    | insertLivre v =>
      simp only [exec] at h
      split at h
      · split_ifs at h
        obtain rfl := Option.some.inj h
        exact Table.isSome_find_insert hid _
      · cases h
    | updateLivre id' o v =>
      simp only [exec] at h
      split at h
      · split_ifs at h
        obtain rfl := Option.some.inj h
        exact Table.isSome_find_update hid _ _
      · cases h
    | deleteLivre id' =>
      simp only [exec] at h
      split_ifs at h
      obtain rfl := Option.some.inj h
      exact Table.isSome_find_delete hid fun heq => hw (by rw [heq])
    | _ => cases hcible
  · unfold Tables.hasLivre
    rw [(exec_frame h).livre hcible]
    exact hid

/-- An account stays unless it is deleted. -/
theorem hasUtilisateur_exec {id : ℕ} (hid : s.hasUtilisateur id = true)
    (hw : w ≠ .deleteUtilisateur id) : s'.hasUtilisateur id = true := by
  by_cases hcible : w.cible = .utilisateur
  · cases w with
    | insertUtilisateur v =>
      simp only [exec] at h
      split at h
      · split_ifs at h
        obtain rfl := Option.some.inj h
        exact Table.isSome_find_insert hid _
      · cases h
    | updateUtilisateur id' o v =>
      simp only [exec] at h
      split at h
      · split_ifs at h
        obtain rfl := Option.some.inj h
        exact Table.isSome_find_update hid _ _
      · cases h
    | deleteUtilisateur id' =>
      simp only [exec] at h
      split_ifs at h
      obtain rfl := Option.some.inj h
      exact Table.isSome_find_delete hid fun heq => hw (by rw [heq])
    | _ => cases hcible
  · unfold Tables.hasUtilisateur
    rw [(exec_frame h).utilisateur hcible]
    exact hid

/-- The loans after a statement refer to rows there were before it. -/
theorem emprunt_exec (hs : References s) : ∀ e ∈ s'.emprunt.rows,
    s.hasUtilisateur e.utilisateur = true ∧ s.hasLivre e.livre = true := by
  intro e he
  by_cases hcible : w.cible = .emprunt
  · cases w with
    | insertEmprunt v =>
      simp only [exec] at h
      split at h
      · split_ifs at h with hguard
        obtain rfl := Option.some.inj h
        rcases Table.mem_insert.mp he with hmem | rfl
        · exact hs.emprunt e hmem
        · exact hguard
      · cases h
    | updateEmprunt id o v =>
      simp only [exec] at h
      split at h
      · split_ifs at h with hguard
        obtain rfl := Option.some.inj h
        obtain ⟨r, hr, rfl⟩ := Table.mem_update.mp he
        obtain ⟨hu, hl⟩ := hs.emprunt r hr
        unfold Table.updateRow
        split_ifs
        · exact ⟨of_changed hguard.1 hu, of_changed hguard.2 hl⟩
        · exact ⟨hu, hl⟩
      · cases h
    | deleteEmprunt id =>
      obtain rfl := Option.some.inj h
      exact hs.emprunt e (Table.mem_delete.mp he).1
    | _ => cases hcible
  · rw [(exec_frame h).emprunt hcible] at he
    exact hs.emprunt e he

/-- The same for the reservations. -/
theorem reservations_exec (hs : References s) : ∀ r ∈ s'.reservations.rows,
    s.hasUtilisateur r.utilisateur = true ∧ s.hasLivre r.livre = true := by
  intro r hr
  by_cases hcible : w.cible = .reservations
  · cases w with
    | insertReservations v =>
      simp only [exec] at h
      split at h
      · split_ifs at h with hguard
        obtain rfl := Option.some.inj h
        rcases Table.mem_insert.mp hr with hmem | rfl
        · exact hs.reservations r hmem
        · exact hguard
      · cases h
    | updateReservations id o v =>
      simp only [exec] at h
      split at h
      · split_ifs at h with hguard
        obtain rfl := Option.some.inj h
        obtain ⟨r₀, hr₀, rfl⟩ := Table.mem_update.mp hr
        obtain ⟨hu, hl⟩ := hs.reservations r₀ hr₀
        unfold Table.updateRow
        split_ifs
        · exact ⟨of_changed hguard.1 hu, of_changed hguard.2 hl⟩
        · exact ⟨hu, hl⟩
      · cases h
    | deleteReservations id =>
      obtain rfl := Option.some.inj h
      exact hs.reservations r (Table.mem_delete.mp hr).1
    | _ => cases hcible
  · rw [(exec_frame h).reservations hcible] at hr
    exact hs.reservations r hr

end Exec

/-- An account is deleted unless a loan or a reservation refers to it. -/
theorem exec_deleteUtilisateur_eq (id : ℕ) (s : Tables) :
    exec (.deleteUtilisateur id) s
      = if (∀ e ∈ s.emprunt.rows, e.utilisateur ≠ id) ∧
            ∀ r ∈ s.reservations.rows, r.utilisateur ≠ id
        then some { s with utilisateur := s.utilisateur.delete id } else none := by
  unfold exec
  refine if_congr ?_ rfl rfl
  simp only [Table.count_eq_zero_iff, beq_eq_false_iff_ne]

/-- The same for a book. -/
theorem exec_deleteLivre_eq (id : ℕ) (s : Tables) :
    exec (.deleteLivre id) s
      = if (∀ e ∈ s.emprunt.rows, e.livre ≠ id) ∧ ∀ r ∈ s.reservations.rows, r.livre ≠ id
        then some { s with livre := s.livre.delete id } else none := by
  unfold exec
  refine if_congr ?_ rfl rfl
  simp only [Table.count_eq_zero_iff, beq_eq_false_iff_ne]

theorem not_refere_of_deleteUtilisateur {id : ℕ} {s s' : Tables}
    (h : exec (.deleteUtilisateur id) s = some s') :
    (∀ e ∈ s.emprunt.rows, e.utilisateur ≠ id) ∧
      ∀ r ∈ s.reservations.rows, r.utilisateur ≠ id := by
  rw [exec_deleteUtilisateur_eq] at h
  split_ifs at h with hguard
  exact hguard

theorem not_refere_of_deleteLivre {id : ℕ} {s s' : Tables}
    (h : exec (.deleteLivre id) s = some s') :
    (∀ e ∈ s.emprunt.rows, e.livre ≠ id) ∧ ∀ r ∈ s.reservations.rows, r.livre ≠ id := by
  rw [exec_deleteLivre_eq] at h
  split_ifs at h with hguard
  exact hguard

/-- Every statement keeps the references. -/
theorem references_exec {w : Statement} {s s' : Tables} (h : exec w s = some s')
    (hs : References s) : References s' where
  emprunt e he := by
    obtain ⟨hu, hl⟩ := emprunt_exec h hs e he
    refine ⟨hasUtilisateur_exec h hu ?_, hasLivre_exec h hl ?_⟩
    · rintro rfl
      rw [(exec_frame h).emprunt nofun] at he
      exact (not_refere_of_deleteUtilisateur h).1 e he rfl
    · rintro rfl
      rw [(exec_frame h).emprunt nofun] at he
      exact (not_refere_of_deleteLivre h).1 e he rfl
  reservations r hr := by
    obtain ⟨hu, hl⟩ := reservations_exec h hs r hr
    refine ⟨hasUtilisateur_exec h hu ?_, hasLivre_exec h hl ?_⟩
    · rintro rfl
      rw [(exec_frame h).reservations nofun] at hr
      exact (not_refere_of_deleteUtilisateur h).2 r hr rfl
    · rintro rfl
      rw [(exec_frame h).reservations nofun] at hr
      exact (not_refere_of_deleteLivre h).2 r hr rfl

/-! ### References of the whole database -/

/-- Every loan, every reservation and every link refers to rows. -/
structure Base.Valides (b : Base) : Prop where
  tables : References b.tables
  livreAuteur : ∀ e ∈ b.livreAuteur, b.tables.hasLivre e.1 = true ∧ b.hasAuteur e.2 = true
  livreCategorie : ∀ e ∈ b.livreCategorie,
    b.tables.hasLivre e.1 = true ∧ b.hasCategorie e.2 = true

/-- A link that a statement leaves is one whose book it does not delete. -/
theorem mem_cascade {w : Statement} {liens : Liens} {e : ℕ × ℕ} (h : e ∈ w.cascade liens) :
    e ∈ liens ∧ w ≠ .deleteLivre e.1 := by
  cases w with
  | deleteLivre id =>
    obtain ⟨hmem, hne⟩ := List.mem_filter.mp h
    refine ⟨hmem, fun heq => ?_⟩
    rw [Statement.deleteLivre.inj heq] at hne
    exact absurd hne (by simp)
  | _ => exact ⟨h, nofun⟩

/-- A link that is inserted refers to rows. -/
theorem mem_inserer {hasLivre hasAutre : ℕ → Bool} {livre autre : ℕ} {liens liens' : Liens}
    (h : liens.inserer hasLivre hasAutre livre autre = some liens') {e : ℕ × ℕ} (he : e ∈ liens') :
    e ∈ liens ∨ hasLivre e.1 = true ∧ hasAutre e.2 = true := by
  unfold Liens.inserer at h
  split_ifs at h with hguard
  obtain rfl := Option.some.inj h
  rcases List.mem_append.mp he with hmem | hmem
  · exact Or.inl hmem
  · obtain rfl := List.mem_singleton.mp hmem
    exact Or.inr ⟨hguard.1, hguard.2.1⟩

namespace Base.Valides

variable {b b' : Base}

/-- A statement of the four tables, with its cascade. -/
theorem prets (hb : b.Valides) {w : Statement} {s' : Tables} (h : exec w b.tables = some s') :
    Valides { b with
      tables := s'
      livreAuteur := w.cascade b.livreAuteur
      livreCategorie := w.cascade b.livreCategorie } where
  tables := references_exec h hb.tables
  livreAuteur e he := by
    obtain ⟨hmem, hne⟩ := mem_cascade he
    obtain ⟨hlivre, hauteur⟩ := hb.livreAuteur e hmem
    exact ⟨hasLivre_exec h hlivre hne, hauteur⟩
  livreCategorie e he := by
    obtain ⟨hmem, hne⟩ := mem_cascade he
    obtain ⟨hlivre, hcategorie⟩ := hb.livreCategorie e hmem
    exact ⟨hasLivre_exec h hlivre hne, hcategorie⟩

theorem insertLivreAuteur (hb : b.Valides) {livre auteur : ℕ}
    (h : b.insertLivreAuteur livre auteur = some b') : b'.Valides := by
  obtain ⟨liens, hliens, rfl⟩ := Option.map_eq_some_iff.mp h
  refine ⟨hb.tables, fun e he => ?_, hb.livreCategorie⟩
  rcases mem_inserer hliens he with hmem | hrefs
  · exact hb.livreAuteur e hmem
  · exact hrefs

theorem insertLivreCategorie (hb : b.Valides) {livre categorie : ℕ}
    (h : b.insertLivreCategorie livre categorie = some b') : b'.Valides := by
  obtain ⟨liens, hliens, rfl⟩ := Option.map_eq_some_iff.mp h
  refine ⟨hb.tables, hb.livreAuteur, fun e he => ?_⟩
  rcases mem_inserer hliens he with hmem | hrefs
  · exact hb.livreCategorie e hmem
  · exact hrefs

/-- Several links of a book, one after the other. -/
theorem foldlM {f : Base → ℕ → Option Base}
    (hf : ∀ b a b', f b a = some b' → b.Valides → b'.Valides) (l : List ℕ) :
    ∀ {b b' : Base}, l.foldlM f b = some b' → b.Valides → b'.Valides := by
  induction l with
  | nil =>
    intro b b' h hb
    obtain rfl := Option.some.inj h
    exact hb
  | cons a l ih =>
    intro b b' h hb
    obtain ⟨b₁, h₁, h₂⟩ := Option.bind_eq_some_iff.mp h
    exact ih h₂ (hf b a b₁ h₁ hb)

/-- The authors have changed, and those that are linked are still there. -/
theorem avecAuteurs (hb : b.Valides) {auteur : Table AuteurRow} {liens : Liens}
    (h : ∀ e ∈ liens, e ∈ b.livreAuteur ∧ ((b.hasAuteur e.2 = true) → (auteur.find e.2).isSome)) :
    Valides { b with auteur := auteur, livreAuteur := liens } := by
  refine ⟨hb.tables, fun e he => ?_, hb.livreCategorie⟩
  obtain ⟨hmem, hstays⟩ := h e he
  obtain ⟨hlivre, hauteur⟩ := hb.livreAuteur e hmem
  exact ⟨hlivre, hstays hauteur⟩

/-- The same for the categories. -/
theorem avecCategories (hb : b.Valides) {categorie : Table CategorieRow} {liens : Liens}
    (h : ∀ e ∈ liens, e ∈ b.livreCategorie ∧
      ((b.hasCategorie e.2 = true) → (categorie.find e.2).isSome)) :
    Valides { b with categorie := categorie, livreCategorie := liens } := by
  refine ⟨hb.tables, hb.livreAuteur, fun e he => ?_⟩
  obtain ⟨hmem, hstays⟩ := h e he
  obtain ⟨hlivre, hcategorie⟩ := hb.livreCategorie e hmem
  exact ⟨hlivre, hstays hcategorie⟩

end Base.Valides

/-- A link that the deletion of an author or a category leaves. -/
theorem mem_sansAutre {autre : ℕ} {liens : Liens} {e : ℕ × ℕ} (h : e ∈ liens.sansAutre autre) :
    e ∈ liens ∧ e.2 ≠ autre := by
  obtain ⟨hmem, hne⟩ := List.mem_filter.mp h
  exact ⟨hmem, by simpa using hne⟩

/-- **Every statement keeps the references.** -/
theorem valides_execBase (i : Instruction) (b b' : Base) (h : execBase i b = some b')
    (hb : b.Valides) : b'.Valides := by
  cases i with
  | prets w =>
    obtain ⟨s', hs', rfl⟩ := Option.map_eq_some_iff.mp h
    exact hb.prets hs'
  | insertLivre v auteurs categories =>
    obtain ⟨s', hs', h⟩ := Option.bind_eq_some_iff.mp h
    obtain ⟨b₁, h₁, h₂⟩ := Option.bind_eq_some_iff.mp h
    have hb₁ := Base.Valides.foldlM (fun _ _ _ h hb => hb.insertLivreAuteur h) auteurs h₁
      (hb.prets hs')
    exact Base.Valides.foldlM (fun _ _ _ h hb => hb.insertLivreCategorie h) categories h₂ hb₁
  | insertLivreAuteur livre auteur => exact hb.insertLivreAuteur h
  | deleteLivreAuteur livre auteur =>
    obtain rfl := Option.some.inj h
    exact hb.avecAuteurs fun e he => ⟨(List.mem_filter.mp he).1, id⟩
  | insertLivreCategorie livre categorie => exact hb.insertLivreCategorie h
  | deleteLivreCategorie livre categorie =>
    obtain rfl := Option.some.inj h
    exact hb.avecCategories fun e he => ⟨(List.mem_filter.mp he).1, id⟩
  | insertAuteur v =>
    simp only [execBase] at h
    split at h
    · split_ifs at h
      obtain rfl := Option.some.inj h
      exact hb.avecAuteurs fun e he => ⟨he, fun ha => Table.isSome_find_insert ha _⟩
    · cases h
  | updateAuteur id o v =>
    simp only [execBase] at h
    split at h
    · split_ifs at h
      obtain rfl := Option.some.inj h
      exact hb.avecAuteurs fun e he => ⟨he, fun ha => Table.isSome_find_update ha _ _⟩
    · cases h
  | deleteAuteur id =>
    obtain rfl := Option.some.inj h
    refine hb.avecAuteurs fun e he => ?_
    obtain ⟨hmem, hne⟩ := mem_sansAutre he
    exact ⟨hmem, fun ha => Table.isSome_find_delete ha hne⟩
  | insertCategorie v =>
    simp only [execBase] at h
    split at h
    · split_ifs at h
      obtain rfl := Option.some.inj h
      exact hb.avecCategories fun e he => ⟨he, fun ha => Table.isSome_find_insert ha _⟩
    · cases h
  | updateCategorie id o v =>
    simp only [execBase] at h
    split at h
    · split_ifs at h
      obtain rfl := Option.some.inj h
      exact hb.avecCategories fun e he => ⟨he, fun ha => Table.isSome_find_update ha _ _⟩
    · cases h
  | deleteCategorie id =>
    obtain rfl := Option.some.inj h
    refine hb.avecCategories fun e he => ?_
    obtain ⟨hmem, hne⟩ := mem_sansAutre he
    exact ⟨hmem, fun ha => Table.isSome_find_delete ha hne⟩

/-! ### The unit of work of a deletion -/

/-- The reservations go first, then their owner. -/
theorem commit_deletes (w₀ : Statement) : ∀ (resas : List ReservationsRow) (s : Tables),
    commit (resas.map (fun r => Statement.deleteReservations r.id) ++ [w₀]) s
      = exec w₀ { s with
          reservations := resas.foldl (fun t r => t.delete (Keyed.key r)) s.reservations }
  | [], s => Option.bind_fun_some (exec w₀ s)
  | r :: resas, s => commit_deletes w₀ resas { s with reservations := s.reservations.delete r.id }

/-- The deletion of the rows found, and of their owner. -/
theorem commit_suppression (w₀ : Statement) (p : ReservationsRow → Bool) (s : Tables) :
    commit ((s.reservations.select p).map (fun r => Statement.deleteReservations r.id) ++ [w₀]) s
      = exec w₀ { s with reservations := s.reservations.deleteWhere p } := by
  rw [commit_deletes, Table.foldl_delete_select]

/-- The whole database after statements of the four tables, with their cascades. -/
def Base.avec (b : Base) (ws : List Statement) (s' : Tables) : Base :=
  { b with
    tables := s'
    livreAuteur := ws.foldl (fun liens w => w.cascade liens) b.livreAuteur
    livreCategorie := ws.foldl (fun liens w => w.cascade liens) b.livreCategorie }

theorem commit_prets : ∀ (ws : List Statement) (b : Base),
    commit (ws.map Instruction.prets) b = (commit ws b.tables).map (b.avec ws)
  | [], _ => rfl
  | w :: ws, b => by
    have hexec : (Database.exec (Instruction.prets w) b : Option Base)
        = (exec w b.tables).map (b.avec [w]) := rfl
    rw [List.map_cons, commit, hexec, commit]
    show _ = Option.map _ ((exec w b.tables).bind (commit ws))
    cases hw : exec w b.tables with
    | none => rfl
    | some s₁ => exact commit_prets ws (b.avec [w] s₁)

/-- Deleting reservations cascades to no link. -/
theorem foldl_cascade_deletes (w₀ : Statement) (resas : List ReservationsRow) (liens : Liens) :
    (resas.map (fun r => Statement.deleteReservations r.id) ++ [w₀]).foldl
      (fun liens w => w.cascade liens) liens = w₀.cascade liens := by
  induction resas with
  | nil => rfl
  | cons r resas ih => exact ih

/-- A deletion: the row is looked for, then its reservations. -/
def suppression {ρ : Type} (trouver : Tables → Option ρ) (p : ReservationsRow → Bool)
    (w₀ : Statement) : Handler := do
  match ← read trouver with
  | none => return .exception 404 "Not Found"
  | some _ => do
    let reservations ← read fun s : Tables => s.reservations.select p
    let committed ← save (reservations.map (fun r => .deleteReservations r.id) ++ [w₀])
    return apresFlush committed

/-- What a deletion leaves of the whole database, and its answer. -/
theorem alone_suppression {ρ : Type} (trouver : Tables → Option ρ) (p : ReservationsRow → Bool)
    (w₀ : Statement) (b : Base) :
    (suppression trouver p w₀).surBase.alone b =
      match trouver b.tables with
      | none => (b, .exception 404 "Not Found")
      | some _ =>
        match exec w₀ { b.tables with
          reservations := b.tables.reservations.deleteWhere p } with
        | some s' => (b.avec [w₀] s', .enregistre)
        | none => (b, apresFlush false) := by
  unfold suppression Handler.surBase
  cases htrouver : trouver b.tables with
  | none =>
    simp only [read_bind, lift, alone_query, htrouver]
    rfl
  | some row =>
    have hcommit := commit_prets ((b.tables.reservations.select p).map
      (fun r => Statement.deleteReservations r.id) ++ [w₀]) b
    rw [commit_suppression] at hcommit
    simp only [read_bind, lift, alone_query, htrouver, save_bind]
    cases hexec : exec w₀ { b.tables with
        reservations := b.tables.reservations.deleteWhere p } with
    | none =>
      rw [hexec] at hcommit
      rw [alone_flush_none hcommit]
      rfl
    | some s' =>
      rw [hexec] at hcommit
      rw [alone_flush_some hcommit]
      unfold Base.avec
      simp only [foldl_cascade_deletes]
      rfl

/-! ### Deletions -/

/-- The database without a book, its reservations and its links. -/
def Base.sansLivre (b : Base) (x : ℕ) : Base :=
  { b with
    tables := { b.tables with
      livre := b.tables.livre.delete x
      reservations := b.tables.reservations.deleteWhere fun r => r.livre == x }
    livreAuteur := b.livreAuteur.sansLivre x
    livreCategorie := b.livreCategorie.sansLivre x }

/-- The database without an account and its reservations. -/
def Base.sansUtilisateur (b : Base) (x : ℕ) : Base :=
  { b with
    tables := { b.tables with
      utilisateur := b.tables.utilisateur.delete x
      reservations := b.tables.reservations.deleteWhere fun r => r.utilisateur == x } }

/-- A deletion fails and changes nothing if a loan refers to the row; else it leaves `sans`, and
succeeds if there is such a row. -/
structure SuppressionExacte (b sans : Base) (refere : EmpruntRow → Prop) (existe : Prop)
    (issue : Base × Reponse) : Prop where
  refusee : (∃ e ∈ b.tables.emprunt.rows, refere e) → issue.1 = b ∧ 400 ≤ issue.2.status
  faite : (∀ e ∈ b.tables.emprunt.rows, ¬ refere e) →
    issue.1 = sans ∧ (existe → issue.2 = .enregistre)

/-- What decides a deletion is the statement that deletes the owner: it is refused exactly if a loan
refers to it, since its reservations are gone by then. -/
theorem suppressionExacte {ρ : Type} (trouver : Tables → Option ρ) (p : ReservationsRow → Bool)
    (w₀ : Statement) {b sans : Base} {refere : EmpruntRow → Prop}
    (habsent : trouver b.tables = none → sans = b)
    (hrefusee : (∃ e ∈ b.tables.emprunt.rows, refere e) →
      exec w₀ { b.tables with reservations := b.tables.reservations.deleteWhere p } = none)
    (hfaite : (∀ e ∈ b.tables.emprunt.rows, ¬ refere e) → ∃ s',
      exec w₀ { b.tables with reservations := b.tables.reservations.deleteWhere p } = some s' ∧
        b.avec [w₀] s' = sans) :
    SuppressionExacte b sans refere ((trouver b.tables).isSome = true)
      ((suppression trouver p w₀).surBase.alone b) := by
  rw [alone_suppression]
  cases htrouver : trouver b.tables with
  | none =>
    refine ⟨fun _ => ⟨rfl, ?_⟩, fun _ => ⟨(habsent htrouver).symm, nofun⟩⟩
    show 400 ≤ 404
    omega
  | some row =>
    refine ⟨fun h => ?_, fun h => ?_⟩
    · rw [hrefusee h]
      refine ⟨rfl, ?_⟩
      show 400 ≤ 500
      omega
    · obtain ⟨s', hs', hsans⟩ := hfaite h
      rw [hs']
      exact ⟨hsans, fun _ => rfl⟩

/-- A reservation that is left is not one of those that are deleted. -/
theorem ne_of_mem_deleteWhere {t : Table ReservationsRow} {cle : ReservationsRow → ℕ} {x : ℕ} :
    ∀ r ∈ (t.deleteWhere fun r => cle r == x).rows, cle r ≠ x := by
  intro r hr
  simpa using (List.mem_filter.mp hr).2

/-- With valid references nothing refers to a book that is not there. -/
theorem sansLivre_eq_self {b : Base} (hb : b.Valides) {x : ℕ} (h : b.tables.livre.find x = none) :
    b.sansLivre x = b := by
  have hne : ∀ l, b.tables.hasLivre l = true → l ≠ x := by
    rintro l hl rfl
    rw [Tables.hasLivre, h] at hl
    cases hl
  have hlivre : b.tables.livre.delete x = b.tables.livre :=
    Table.deleteWhere_eq_self fun r hr =>
      beq_eq_false_iff_ne.mpr ((b.tables.livre.find_eq_none_iff x).mp h r hr)
  have hreservations : b.tables.reservations.deleteWhere (fun r => r.livre == x)
      = b.tables.reservations :=
    Table.deleteWhere_eq_self fun r hr =>
      beq_eq_false_iff_ne.mpr (hne _ (hb.tables.reservations r hr).2)
  have hliens : ∀ liens : Liens, (∀ e ∈ liens, b.tables.hasLivre e.1 = true) →
      liens.sansLivre x = liens := by
    intro liens hvalides
    exact List.filter_eq_self.mpr fun e he => bne_iff_ne.mpr (hne _ (hvalides e he))
  unfold Base.sansLivre
  rw [hlivre, hreservations, hliens _ fun e he => (hb.livreAuteur e he).1,
    hliens _ fun e he => (hb.livreCategorie e he).1]

/-- The same for an account. -/
theorem sansUtilisateur_eq_self {b : Base} (hb : b.Valides) {x : ℕ}
    (h : b.tables.utilisateur.find x = none) : b.sansUtilisateur x = b := by
  have hne : ∀ u, b.tables.hasUtilisateur u = true → u ≠ x := by
    rintro u hu rfl
    rw [Tables.hasUtilisateur, h] at hu
    cases hu
  have hutilisateur : b.tables.utilisateur.delete x = b.tables.utilisateur :=
    Table.deleteWhere_eq_self fun r hr =>
      beq_eq_false_iff_ne.mpr ((b.tables.utilisateur.find_eq_none_iff x).mp h r hr)
  have hreservations : b.tables.reservations.deleteWhere (fun r => r.utilisateur == x)
      = b.tables.reservations :=
    Table.deleteWhere_eq_self fun r hr =>
      beq_eq_false_iff_ne.mpr (hne _ (hb.tables.reservations r hr).1)
  unfold Base.sansUtilisateur
  rw [hutilisateur, hreservations]

section Admin

variable {acteur : List String} (hadmin : isGranted acteur "ROLE_ADMIN" = true) (x : ℕ)

include hadmin

theorem delete_livre_eq : LivreCrudController.delete acteur x
    = suppression (fun s => s.livre.find x) (fun r => r.livre == x) (.deleteLivre x) := by
  simp only [LivreCrudController.delete, suppression, hadmin, Bool.not_true, Bool.false_eq_true,
    if_false, read_bind]
  refine congrArg Prog.query (funext fun s => ?_)
  cases s.livre.find x with
  | none => rfl
  | some row => rfl

theorem delete_utilisateur_eq : UtilisateurCrudController.delete acteur x
    = suppression (fun s => s.utilisateur.find x) (fun r => r.utilisateur == x)
        (.deleteUtilisateur x) := by
  simp only [UtilisateurCrudController.delete, suppression, hadmin, Bool.not_true,
    Bool.false_eq_true, if_false, read_bind]
  refine congrArg Prog.query (funext fun s => ?_)
  cases s.utilisateur.find x with
  | none => rfl
  | some row => rfl

end Admin

theorem suppression_livre {b : Base} (hb : b.Valides) (x : ℕ) :
    SuppressionExacte b (b.sansLivre x) (fun e => e.livre = x) (b.tables.hasLivre x = true)
      ((suppression (fun s => s.livre.find x) (fun r => r.livre == x)
        (.deleteLivre x)).surBase.alone b) := by
  refine suppressionExacte (fun s => s.livre.find x) _ _
    (fun habsent => sansLivre_eq_self hb habsent) (fun h => ?_) fun h => ?_
  · obtain ⟨e, he, hlivre⟩ := h
    rw [exec_deleteLivre_eq]
    exact if_neg fun hguard => hguard.1 e he hlivre
  · rw [exec_deleteLivre_eq]
    exact ⟨_, if_pos ⟨h, ne_of_mem_deleteWhere⟩, rfl⟩

theorem suppression_utilisateur {b : Base} (hb : b.Valides) (x : ℕ) :
    SuppressionExacte b (b.sansUtilisateur x) (fun e => e.utilisateur = x)
      (b.tables.hasUtilisateur x = true)
      ((suppression (fun s => s.utilisateur.find x) (fun r => r.utilisateur == x)
        (.deleteUtilisateur x)).surBase.alone b) := by
  refine suppressionExacte (fun s => s.utilisateur.find x) _ _
    (fun habsent => sansUtilisateur_eq_self hb habsent) (fun h => ?_) fun h => ?_
  · obtain ⟨e, he, hutilisateur⟩ := h
    rw [exec_deleteUtilisateur_eq]
    exact if_neg fun hguard => hguard.1 e he hutilisateur
  · rw [exec_deleteUtilisateur_eq]
    exact ⟨_, if_pos ⟨h, ne_of_mem_deleteWhere⟩, rfl⟩

/-- **Deletions.**  In every database with valid references, for every administrator: deleting a
book or an account fails and changes nothing if a loan, open or returned, refers to it; else it
removes exactly the row, its reservations and, for a book, its links.  In every interleaving of any
requests, every loan, reservation and link refers to rows. -/
theorem deletion_keeps_references (services : Services) (b : Base) (hb : b.Valides)
    (acteur : List String) (hadmin : isGranted acteur "ROLE_ADMIN" = true) (x : ℕ) :
    SuppressionExacte b (b.sansLivre x) (fun e => e.livre = x) (b.tables.hasLivre x = true)
        (((RequeteBase.prets (.livreDelete acteur x)).handler services).alone b) ∧
      SuppressionExacte b (b.sansUtilisateur x) (fun e => e.utilisateur = x)
        (b.tables.hasUtilisateur x = true)
        (((RequeteBase.prets (.utilisateurDelete acteur x)).handler services).alone b) ∧
      ∀ es : List (Event RequeteBase),
        (run (Config.step (RequeteBase.handler services)) (Config.idle b) es).store.Valides := by
  simp only [RequeteBase.handler, Requete.handler, delete_livre_eq hadmin,
    delete_utilisateur_eq hadmin]
  refine ⟨suppression_livre hb x, suppression_utilisateur hb x, fun es => ?_⟩
  exact Config.store_preserves valides_execBase (RequeteBase.handler services) es hb

/-- A book with a reservation is deleted with it; a book that was lent once is not. -/
theorem deletion_of_reserved_book :
    let b := Exemple.base (Table.empty.insert ⟨0, 0, some 5, 5, 2⟩)
      (Table.empty.insert ⟨0, 7, 6, 1⟩)
    let supprimer := fun x =>
      ((RequeteBase.prets (.livreDelete ["ROLE_ADMIN"] x)).handler Exemple.services).alone b
    supprimer 1 = (b.sansLivre 1, .enregistre) ∧ (supprimer 2).1 = b := by
  intro b supprimer
  have hb : b.Valides := ⟨⟨by decide, by decide⟩, by decide, by decide⟩
  have hadmin : isGranted ["ROLE_ADMIN"] "ROLE_ADMIN" = true := by decide
  have hfaite := (deletion_keeps_references Exemple.services b hb _ hadmin 1).1.faite (by decide)
  have hrefusee := (deletion_keeps_references Exemple.services b hb _ hadmin 2).1.refusee
    ⟨⟨1, 0, some 5, 5, 2⟩, by decide, rfl⟩
  exact ⟨Prod.ext hfaite.1 (hfaite.2 (by decide)), hrefusee.1⟩

end Biblio
