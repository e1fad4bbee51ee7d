import Biblio.Equiv.Validator

/-!
# The effect of a statement

Frame lemmas: a statement changes only the table it names (`Statement.cible`), and so does a unit
of work.  Inversion lemmas: an `INSERT` or `UPDATE` that is not refused had a value for every
`NOT NULL` column, and changes the counts of its table as stated.  An `UPDATE` is inverted for the
case that the row still holds the original data of the entity, as it does when the request is
served alone; the row then gets exactly the values of the entity, as far as its columns keep them.
-/

namespace Biblio

/-- The tables. -/
inductive Relation where
  | livre
  | utilisateur
  | emprunt
  | reservations
  deriving DecidableEq

/-- The table a statement writes. -/
def Statement.cible : Statement → Relation
  | insertLivre _ | updateLivre _ _ _ | deleteLivre _ => .livre
  | insertUtilisateur _ | updateUtilisateur _ _ _ | deleteUtilisateur _ => .utilisateur
  | insertEmprunt _ | updateEmprunt _ _ _ | deleteEmprunt _ => .emprunt
  | insertReservations _ | updateReservations _ _ _ | deleteReservations _ => .reservations

/-- The deletion of an owner is preceded by those of its reservations, and touches no other
table. -/
theorem cible_ne_of_mem_deletes {resas : List ReservationsRow} {w w₀ : Statement} {t : Relation}
    (ht : t ≠ .reservations) (hw₀ : w₀.cible ≠ t)
    (h : w ∈ resas.map (fun r => Statement.deleteReservations r.id) ++ [w₀]) : w.cible ≠ t := by
  rcases List.mem_append.mp h with h | h
  · obtain ⟨r, -, rfl⟩ := List.mem_map.mp h
    exact ht.symm
  · rw [List.mem_singleton.mp h]
    exact hw₀

/-- After the loan, `persistEntity` only deletes a reservation. -/
theorem eq_delete_of_mem_toList {resa : Option ReservationsRow} {w : Statement}
    (h : w ∈ (resa.map fun r => Statement.deleteReservations r.id).toList) :
    ∃ id, w = .deleteReservations id := by
  cases resa with
  | none => simp at h
  | some r => exact ⟨r.id, List.mem_singleton.mp h⟩

/-! ### Frames -/

/-- `s'` agrees with `s` except on one table. -/
structure Frame (t : Relation) (s s' : Tables) : Prop where
  livre : t ≠ .livre → s'.livre = s.livre
  utilisateur : t ≠ .utilisateur → s'.utilisateur = s.utilisateur
  emprunt : t ≠ .emprunt → s'.emprunt = s.emprunt
  reservations : t ≠ .reservations → s'.reservations = s.reservations
  emailKey : s'.emailKey = s.emailKey

theorem exec_frame {w : Statement} {s s' : Tables} (h : exec w s = some s') :
    Frame w.cible s s' := by
  cases w <;> simp only [exec] at h <;> (repeat' split at h) <;>
    simp only [reduceCtorEq, Option.some.injEq] at h <;> subst h <;>
    constructor <;> simp [Statement.cible]

theorem commit_cons_eq_some {w : Statement} {ws : List Statement} {s s' : Tables}
    (h : commit (w :: ws) s = some s') : ∃ s₁, exec w s = some s₁ ∧ commit ws s₁ = some s' :=
  Option.bind_eq_some_iff.mp h

theorem commit_singleton {w : Statement} {s s' : Tables} (h : commit [w] s = some s') :
    exec w s = some s' := by
  obtain ⟨s₁, h₁, h₂⟩ := commit_cons_eq_some h
  rw [h₁]
  exact h₂

/-- A unit of work of one statement. -/
theorem commit_exec (w : Statement) (s : Tables) : commit [w] s = exec w s :=
  Option.bind_fun_some (exec w s)

/-- A request whose last access is one statement that is not refused. -/
theorem after_flush_singleton {w : Statement} {s s' : Tables} (h : exec w s = some s')
    (f : Bool → Reponse) : (Prog.flush [w] fun b => .done (f b) : Handler).after s = s' := by
  rw [Prog.after_flush _ _ _ fun _ _ => rfl]
  show ((exec w s).bind some).getD s = s'
  rw [h]
  rfl

theorem commit_append_eq_some : ∀ {ws ws' : List Statement} {s s' : Tables},
    commit (ws ++ ws') s = some s' → ∃ s₁, commit ws s = some s₁ ∧ commit ws' s₁ = some s'
  | [], _, s, _, h => ⟨s, rfl, h⟩
  | w :: ws, _, s, _, h => by
    obtain ⟨s₁, h₁, h₂⟩ := commit_cons_eq_some h
    obtain ⟨s₂, h₃, h₄⟩ := commit_append_eq_some h₂
    exact ⟨s₂, by rw [commit, show Database.exec w s = some s₁ from h₁]; exact h₃, h₄⟩

/-- What every statement of a unit of work preserves is preserved by the unit of work. -/
theorem commit_induct {P : Tables → Prop} : ∀ {ws : List Statement} {s s' : Tables},
    (∀ w ∈ ws, ∀ s₁ s₂, P s₁ → exec w s₁ = some s₂ → P s₂) → P s → commit ws s = some s' → P s'
  | [], s, s', _, hs, h => Option.some.inj h ▸ hs
  | w :: ws, s, s', hP, hs, h => by
    obtain ⟨s₁, h₁, h₂⟩ := commit_cons_eq_some h
    exact commit_induct (fun w' hw' => hP w' (List.mem_cons_of_mem _ hw'))
      (hP w (List.mem_cons_self ..) s s₁ hs h₁) h₂

theorem commit_emprunt_eq {ws : List Statement} {s s' : Tables}
    (hws : ∀ w ∈ ws, w.cible ≠ .emprunt) (h : commit ws s = some s') : s'.emprunt = s.emprunt :=
  commit_induct (P := fun t => t.emprunt = s.emprunt)
    (fun w hw _ _ h₁ he => ((exec_frame he).emprunt (hws w hw)).trans h₁) rfl h

theorem commit_utilisateur_eq {ws : List Statement} {s s' : Tables}
    (hws : ∀ w ∈ ws, w.cible ≠ .utilisateur) (h : commit ws s = some s') :
    s'.utilisateur = s.utilisateur :=
  commit_induct (P := fun t => t.utilisateur = s.utilisateur)
    (fun w hw _ _ h₁ he => ((exec_frame he).utilisateur (hws w hw)).trans h₁) rfl h

theorem commit_emailKey_eq {ws : List Statement} {s s' : Tables} (h : commit ws s = some s') :
    s'.emailKey = s.emailKey :=
  commit_induct (P := fun t => t.emailKey = s.emailKey)
    (fun _ _ _ _ h₁ he => (exec_frame he).emailKey.trans h₁) rfl h

/-! ### Counts -/

/-- A count that grew by one row is within the bound the row was checked against. -/
theorem count_le_of_grows {base before after n : ℕ} {b : Bool} (hle : base ≤ before)
    (hafter : after = base + b.toNat) (hok : b = true → base < n) (hgrow : before < after) :
    after ≤ n := by
  cases b with
  | false =>
    rw [Bool.toNat_false] at hafter
    omega
  | true =>
    have := hok rfl
    rw [Bool.toNat_true] at hafter
    omega

/-- A statement that adds no reservation and changes none. -/
def Statement.SansAjoutResa (w : Statement) : Prop :=
  w.cible ≠ .reservations ∨ ∃ id, w = .deleteReservations id

theorem sansAjoutResa_of_mem_deletes {resas : List ReservationsRow} {w w₀ : Statement}
    (hw₀ : w₀.cible ≠ .reservations)
    (h : w ∈ resas.map (fun r => Statement.deleteReservations r.id) ++ [w₀]) :
    w.SansAjoutResa := by
  rcases List.mem_append.mp h with h | h
  · obtain ⟨resa, -, rfl⟩ := List.mem_map.mp h
    exact Or.inr ⟨_, rfl⟩
  · rw [List.mem_singleton.mp h]
    exact Or.inl hw₀

/-- A unit of work that only deletes reservations does not raise their number. -/
theorem commit_reservations_count_le {ws : List Statement} {s s' : Tables}
    (hws : ∀ w ∈ ws, w.SansAjoutResa) (h : commit ws s = some s') (p : ReservationsRow → Bool) :
    s'.reservations.count p ≤ s.reservations.count p := by
  refine commit_induct (P := fun t => t.reservations.count p ≤ s.reservations.count p)
    (fun w hw s₁ s₂ h₁ he => ?_) (Nat.le_refl _) h
  rcases hws w hw with hne | ⟨id, rfl⟩
  · rw [(exec_frame he).reservations hne]
    exact h₁
  · obtain rfl := Option.some.inj he
    exact Nat.le_trans (Table.count_delete_le _ _ _) h₁

/-! ### Loans -/

theorem changed_self {β : Type} [DecidableEq β] (o n : β) : changed o n o = n := by
  unfold changed
  split_ifs with h
  · exact h.symm
  · rfl

/-- The row a complete loan becomes. -/
structure Emprunt.Complete (v : Emprunt) (row : EmpruntRow) : Prop where
  dateEmprunt : v.dateEmprunt = some row.dateEmprunt
  dateRetour : v.dateRetour = row.dateRetour
  utilisateur : v.utilisateur = some row.utilisateur
  livre : v.livre = some row.livre

theorem exec_insertEmprunt {v : Emprunt} {s s' : Tables}
    (h : exec (.insertEmprunt v) s = some s') :
    ∃ row, v.Complete row ∧ s' = { s with emprunt := s.emprunt.insert row } := by
  simp only [exec] at h
  split at h
  · next d u l hd hu hl =>
    split_ifs at h
    exact ⟨⟨0, d, v.dateRetour, u, l⟩, ⟨hd, rfl, hu, hl⟩, (Option.some.inj h).symm⟩
  · cases h

theorem exec_updateEmprunt {id : ℕ} {o : EmpruntRow} {v : Emprunt} {s s' : Tables}
    (hrow : s.emprunt.find id = some o) (h : exec (.updateEmprunt id o v) s = some s') :
    ∃ row, row.id = id ∧ v.Complete row ∧ s'.emprunt.find id = some row ∧
      ∀ p, s'.emprunt.count p = s.emprunt.others id p + (p row).toNat := by
  simp only [exec] at h
  split at h
  · next d u l hd hu hl =>
    split_ifs at h
    obtain rfl := (Option.some.inj h).symm
    refine ⟨⟨id, d, v.dateRetour, u, l⟩, rfl, ⟨hd, rfl, hu, hl⟩, ?_, fun p => ?_⟩
    · rw [Table.find_update_self, hrow, Option.map_some]
      simp only [changed_self]
      rfl
    · rw [Table.count_update, hrow]
      simp only [changed_self, Option.elim_some]
      rfl
  · cases h

/-! ### Reservations -/

/-- The row a complete reservation becomes. -/
structure Reservations.Complete (v : Reservations) (row : ReservationsRow) : Prop where
  dateResa : v.dateResa = some row.dateResa
  utilisateur : v.utilisateur = some row.utilisateur
  livre : v.livre = some row.livre

theorem exec_insertReservations {v : Reservations} {s s' : Tables}
    (h : exec (.insertReservations v) s = some s') :
    ∃ row, v.Complete row ∧ s' = { s with reservations := s.reservations.insert row } := by
  simp only [exec] at h
  split at h
  · next d u l hd hu hl =>
    split_ifs at h
    exact ⟨⟨0, d, u, l⟩, ⟨hd, hu, hl⟩, (Option.some.inj h).symm⟩
  · cases h

theorem exec_updateReservations {id : ℕ} {o : ReservationsRow} {v : Reservations}
    {s s' : Tables} (hrow : s.reservations.find id = some o)
    (h : exec (.updateReservations id o v) s = some s') :
    ∃ row, row.id = id ∧ v.Complete row ∧
      ∀ p, s'.reservations.count p = s.reservations.others id p + (p row).toNat := by
  simp only [exec] at h
  split at h
  · next d u l hd hu hl =>
    split_ifs at h
    obtain rfl := (Option.some.inj h).symm
    refine ⟨⟨id, d, u, l⟩, rfl, ⟨hd, hu, hl⟩, fun p => ?_⟩
    rw [Table.count_update, hrow]
    simp only [changed_self, Option.elim_some]
    rfl
  · cases h

/-! ### Conversions -/

/-- The reservations a conversion leaves. -/
def sansResa (s : Tables) : Option ReservationsRow → Table ReservationsRow
  | none => s.reservations
  | some r => s.reservations.delete r.id

/-- A conversion inserts the loan and removes the reservation. -/
theorem commit_persistStatements {e : Emprunt} {resa : Option ReservationsRow} {s s' : Tables}
    (h : commit (EmpruntCrudController.persistStatements e resa) s = some s') :
    ∃ row, e.Complete row ∧
      s' = { s with emprunt := s.emprunt.insert row, reservations := sansResa s resa } := by
  obtain ⟨s₁, hins, hdel⟩ := commit_cons_eq_some h
  obtain ⟨row, hrow, rfl⟩ := exec_insertEmprunt hins
  refine ⟨row, hrow, ?_⟩
  cases resa with
  | none => exact (Option.some.inj hdel).symm
  | some r => exact (Option.some.inj (commit_singleton hdel)).symm

theorem count_sansResa_le (s : Tables) (resa : Option ReservationsRow)
    (p : ReservationsRow → Bool) : (sansResa s resa).count p ≤ s.reservations.count p := by
  cases resa with
  | none => exact Nat.le_refl _
  | some r => exact s.reservations.count_delete_le r.id p

/-! ### Columns -/

theorem couper_of_length_le {n : ℕ} {t : String} (h : t.length ≤ n) : couper n t = t := by
  rw [← String.length_toList] at h
  rw [couper, List.take_of_length_le h, String.ofList_toList]

theorem length_couper_le (n : ℕ) (t : String) : (couper n t).length ≤ n := by
  rw [couper, String.length_ofList]
  exact List.length_take_le ..

theorem couper_eq_self_iff {n : ℕ} {t : String} : couper n t = t ↔ t.length ≤ n :=
  ⟨fun h => h ▸ length_couper_le n t, couper_of_length_le⟩

theorem fits_of_length_le {n : ℕ} {t : String} (h : t.length ≤ n) : fits n (some t) = true := by
  rw [← String.length_toList] at h
  rw [fits, Option.all_some, List.drop_of_length_le h]
  rfl

theorem fits_none (n : ℕ) : fits n none = true := rfl

/-- A value that does not end with a space fits only if it is short enough. -/
theorem length_le_of_fits {n : ℕ} {t : String} (h : fits n (some t) = true)
    (hlast : t.toList.getLast? ≠ some ' ') : t.length ≤ n := by
  rw [← String.length_toList]
  by_contra hlong
  have hne : t.toList.drop n ≠ [] := by
    rw [Ne, List.drop_eq_nil_iff]
    exact hlong
  rw [fits, Option.all_some, List.all_eq_true] at h
  have hblank := h _ (List.getLast_mem hne)
  rw [List.getLast_drop, beq_iff_eq] at hblank
  exact hlast (hblank ▸ List.getLast?_eq_some_getLast _)

/-- What a column gets of a value: the value itself if it is that of the original data, else what
the column keeps of it. -/
def garde {β : Type} [DecidableEq β] (keep : β → β) (original : Option β) (v : β) : β :=
  if some v = original then v else keep v

theorem changedTo_self {β : Type} [DecidableEq β] (keep : β → β) (o n : β) :
    changedTo keep o n o = garde keep (some o) n := by
  unfold changedTo garde
  split_ifs with h h' h'
  · exact h.symm
  · exact absurd (congrArg some h) h'
  · exact absurd (Option.some.inj h') h
  · rfl

theorem garde_of_eq {β : Type} [DecidableEq β] {keep : β → β} {v : β} (h : keep v = v)
    (original : Option β) : garde keep original v = v := by
  unfold garde
  rw [h, ite_self]

theorem garde_none {β : Type} [DecidableEq β] (keep : β → β) (v : β) :
    garde keep none v = keep v := if_neg (Option.some_ne_none v)

theorem garde_self {β : Type} [DecidableEq β] (keep : β → β) (v : β) :
    garde keep (some v) v = v := if_pos rfl

/-- A nullable column keeps a value that is short enough. -/
theorem garde_map_of_length_le {n : ℕ} {v : Option String} (h : ∀ t, v = some t → t.length ≤ n)
    (original : Option (Option String)) : garde (Option.map (couper n)) original v = v := by
  refine garde_of_eq ?_ original
  cases v with
  | none => rfl
  | some t => exact congrArg some (couper_of_length_le (h t rfl))

/-! ### Accounts -/

/-- The row a complete account becomes, when it was read from the row `original`, or is new. -/
structure Utilisateur.Complete (v : Utilisateur) (original : Option UtilisateurRow)
    (row : UtilisateurRow) : Prop where
  fits : v.fits = true
  email : v.email.map (garde (couper 180) (original.map UtilisateurRow.email)) = some row.email
  roles : v.roles = row.roles
  password : v.password.map (garde (couper 255) (original.map UtilisateurRow.password))
    = some row.password
  nom : garde (Option.map (couper 100)) (original.map UtilisateurRow.nom) v.nom = row.nom
  prenom : garde (Option.map (couper 100)) (original.map UtilisateurRow.prenom) v.prenom
    = row.prenom
  dateAdhesion : v.dateAdhesion = some row.dateAdhesion
  numTel : garde (Option.map (couper 20)) (original.map UtilisateurRow.numTel) v.numTel
    = row.numTel

theorem Utilisateur.fits_iff (v : Utilisateur) :
    v.fits = true ↔ Biblio.fits 180 v.email = true ∧ Biblio.fits 255 v.password = true ∧
      Biblio.fits 100 v.nom = true ∧ Biblio.fits 100 v.prenom = true ∧
      Biblio.fits 255 v.adressePostale = true ∧ Biblio.fits 20 v.numTel = true ∧
      Biblio.fits 255 v.photo = true := by
  simp only [Utilisateur.fits, Bool.and_eq_true, and_assoc]

namespace Utilisateur.Complete

variable {v : Utilisateur} {original : Option UtilisateurRow} {o row : UtilisateurRow}

/-- The email of the original data is kept. -/
theorem email_kept (h : v.Complete (some o) row) (he : v.email = some o.email) :
    row.email = o.email := by
  have hemail := h.email
  rw [he, Option.map_some, Option.map_some, garde_self] at hemail
  exact (Option.some.inj hemail).symm

/-- The password of the original data is kept. -/
theorem password_kept (h : v.Complete (some o) row) (hp : v.password = some o.password) :
    row.password = o.password := by
  have hpassword := h.password
  rw [hp, Option.map_some, Option.map_some, garde_self] at hpassword
  exact (Option.some.inj hpassword).symm

/-- An email that does not end with a space is stored as it is. -/
theorem email_eq {e : String} (h : v.Complete original row) (he : v.email = some e)
    (hlast : e.toList.getLast? ≠ some ' ') : row.email = e := by
  have hfits : Biblio.fits 180 (some e) = true := he ▸ ((v.fits_iff).mp h.fits).1
  have hemail := h.email
  rw [he, Option.map_some,
    garde_of_eq (couper_of_length_le (length_le_of_fits hfits hlast))] at hemail
  exact (Option.some.inj hemail).symm

/-- A password that does not end with a space is stored as it is. -/
theorem password_eq {p : String} (h : v.Complete original row) (hp : v.password = some p)
    (hlast : p.toList.getLast? ≠ some ' ') : row.password = p := by
  have hfits : Biblio.fits 255 (some p) = true := hp ▸ ((v.fits_iff).mp h.fits).2.1
  have hpassword := h.password
  rw [hp, Option.map_some,
    garde_of_eq (couper_of_length_le (length_le_of_fits hfits hlast))] at hpassword
  exact (Option.some.inj hpassword).symm

end Utilisateur.Complete

theorem exec_insertUtilisateur {v : Utilisateur} {s s' : Tables}
    (h : exec (.insertUtilisateur v) s = some s') :
    ∃ row, v.Complete none row ∧ row.id = s.utilisateur.next ∧ s.emailLibre 0 row.email = true ∧
      s'.utilisateur.next = s.utilisateur.next + 1 ∧
      ∀ r, r ∈ s'.utilisateur.rows ↔ r = row ∨ r ∈ s.utilisateur.rows := by
  simp only [exec] at h
  split at h
  · next email password date he hp hd =>
    split_ifs at h with hok
    obtain rfl := (Option.some.inj h).symm
    refine ⟨⟨s.utilisateur.next, couper 180 email, v.roles, couper 255 password,
      v.nom.map (couper 100), v.prenom.map (couper 100), date, v.dateNaiss,
      v.adressePostale.map (couper 255), v.numTel.map (couper 20), v.photo.map (couper 255)⟩,
      ⟨hok.1, ?_, rfl, ?_, garde_none .., garde_none .., hd, garde_none ..⟩, rfl, hok.2, rfl,
      fun r => Table.mem_insert.trans or_comm⟩
    · rw [he, Option.map_some, Option.map_none, garde_none]
    · rw [hp, Option.map_some, Option.map_none, garde_none]
  · cases h

/-- An update from the data of the row itself replaces the row. -/
theorem exec_updateUtilisateur {id : ℕ} {o : UtilisateurRow} {v : Utilisateur} {s s' : Tables}
    (hrow : s.utilisateur.find id = some o)
    (h : exec (.updateUtilisateur id o v) s = some s') :
    ∃ row, v.Complete (some o) row ∧ row.id = id ∧
      (row.email = o.email ∨ s.emailLibre id row.email = true) ∧
      s'.utilisateur.next = s.utilisateur.next ∧
      ∀ r, r ∈ s'.utilisateur.rows ↔ r = row ∨ r ∈ s.utilisateur.rows ∧ r.id ≠ id := by
  simp only [exec] at h
  split at h
  · next email password date he hp hd =>
    split_ifs at h with hok
    obtain rfl := (Option.some.inj h).symm
    refine ⟨⟨id, garde (couper 180) (some o.email) email, v.roles,
      garde (couper 255) (some o.password) password,
      garde (Option.map (couper 100)) (some o.nom) v.nom,
      garde (Option.map (couper 100)) (some o.prenom) v.prenom, date, v.dateNaiss,
      garde (Option.map (couper 255)) (some o.adressePostale) v.adressePostale,
      garde (Option.map (couper 20)) (some o.numTel) v.numTel,
      garde (Option.map (couper 255)) (some o.photo) v.photo⟩,
      ⟨hok.1, by rw [he, Option.map_some, Option.map_some], rfl,
        by rw [hp, Option.map_some, Option.map_some], rfl, rfl, hd, rfl⟩, rfl, ?_, rfl,
      fun r => ?_⟩
    · by_cases hsame : email = o.email
      · exact Or.inl (hsame ▸ garde_self _ _)
      · rw [garde, if_neg fun h => hsame (Option.some.inj h)]
        exact Or.inr (hok.2.resolve_left hsame)
    rw [Table.mem_update]
    constructor
    · rintro ⟨r₀, hr₀, rfl⟩
      by_cases hid : Keyed.key r₀ = id
      · -- the row of this key is the one the entity was read from
        obtain rfl : r₀ = o := by
          have := (s.utilisateur.find_eq_some_iff id r₀).mpr ⟨hr₀, hid⟩
          exact Option.some.inj (this.symm.trans hrow)
        left
        rw [Table.updateRow, if_pos hid]
        simp only [changed_self, changedTo_self]
        rfl
      · rw [Table.updateRow, if_neg hid]
        exact Or.inr ⟨hr₀, hid⟩
    · rintro (rfl | ⟨hr, hid⟩)
      · refine ⟨o, Table.mem_of_find hrow, ?_⟩
        rw [Table.updateRow, if_pos (Table.key_of_find hrow)]
        simp only [changed_self, changedTo_self]
        rfl
      · have hkey : Keyed.key r ≠ id := hid
        exact ⟨r, hr, by rw [Table.updateRow, if_neg hkey]⟩
  · cases h

theorem exec_deleteUtilisateur {id : ℕ} {s s' : Tables}
    (h : exec (.deleteUtilisateur id) s = some s') :
    s'.utilisateur = s.utilisateur.delete id := by
  simp only [exec] at h
  split_ifs at h
  obtain rfl := (Option.some.inj h).symm
  rfl

end Biblio
