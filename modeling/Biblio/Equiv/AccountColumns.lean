import Biblio.Equiv.TokenOwner
import Biblio.Equiv.Units
import Biblio.Store.Lift

/-!
# Concurrent writes to one account

An `UPDATE` sets only the columns whose new value differs from what its request had read
(`changed`).  So in every interleaving each column of an account holds the value of the last
committed unit of work that had changed it, as far as the column keeps it, or its first value if
there is none (`account_columns_last_writer`): a request that overlaps with another one loses
nothing of what the other wrote in the columns it leaves alone.  Which requests change which columns
is read off their units of work: a member's profile page its email, address and telephone, the
renewal of a hash the password, the page of the staff everything but the photograph.

`Colonne` names the columns of `utilisateur`, `Colonne.garder` says what each keeps of a value, and
`ecritures` collects the changes of one column from the journal of an interleaving.  Two accounts
never get one email either, whatever the handlers are: the unique key of the schema sees to that
(`emails_unique_in_interleavings`).
-/

namespace Biblio

open Prog

/-! ### Columns -/

/-- The columns of `utilisateur`, but for its key. -/
inductive Colonne where
  | email
  | roles
  | password
  | nom
  | prenom
  | dateAdhesion
  | dateNaiss
  | adressePostale
  | numTel
  | photo
  deriving DecidableEq

namespace Colonne

/-- The values of a column, as a property of the entity. -/
def Valeur : Colonne → Type
  | roles => List String
  | dateAdhesion => Option Datetime
  | dateNaiss => Option Date
  | _ => Option String

instance : ∀ c : Colonne, DecidableEq c.Valeur
  | roles => inferInstanceAs (DecidableEq (List String))
  | dateAdhesion => inferInstanceAs (DecidableEq (Option Datetime))
  | dateNaiss => inferInstanceAs (DecidableEq (Option Date))
  | email => inferInstanceAs (DecidableEq (Option String))
  | password => inferInstanceAs (DecidableEq (Option String))
  | nom => inferInstanceAs (DecidableEq (Option String))
  | prenom => inferInstanceAs (DecidableEq (Option String))
  | adressePostale => inferInstanceAs (DecidableEq (Option String))
  | numTel => inferInstanceAs (DecidableEq (Option String))
  | photo => inferInstanceAs (DecidableEq (Option String))

/-- The value of a column in an entity. -/
def lire : (c : Colonne) → Utilisateur → c.Valeur
  | email, u => u.email
  | roles, u => u.roles
  | password, u => u.password
  | nom, u => u.nom
  | prenom, u => u.prenom
  | dateAdhesion, u => u.dateAdhesion
  | dateNaiss, u => u.dateNaiss
  | adressePostale, u => u.adressePostale
  | numTel, u => u.numTel
  | photo, u => u.photo

/-- What a column keeps of a value: a `VARCHAR` its first characters. -/
def garder : (c : Colonne) → c.Valeur → c.Valeur
  | email => Option.map (couper 180)
  | password => Option.map (couper 255)
  | nom => Option.map (couper 100)
  | prenom => Option.map (couper 100)
  | adressePostale => Option.map (couper 255)
  | numTel => Option.map (couper 20)
  | photo => Option.map (couper 255)
  | roles => id
  | dateAdhesion => id
  | dateNaiss => id

end Colonne

/-- What a statement changes in a column of the account `u`: an `UPDATE` with a value that its
request had not read writes what the column keeps of it. -/
def Statement.change (u : ℕ) (c : Colonne) : Statement → Option c.Valeur
  | .updateUtilisateur id o v =>
    if id = u ∧ c.lire v ≠ c.lire o.toEntity then some (c.garder (c.lire v)) else none
  | _ => none

theorem changedTo_some {β : Type} [DecidableEq β] (keep : β → β) (o n r : β) :
    some (changedTo keep o n r) = changedTo (Option.map keep) (some o) (some n) (some r) := by
  unfold changedTo
  by_cases h : n = o
  · rw [if_pos h, if_pos (congrArg some h)]
  · rw [if_neg h, if_neg fun h' => h (Option.some.inj h')]
    rfl

/-- A column that may not be null and keeps a date as it is. -/
theorem changed_some {β : Type} [DecidableEq β] (o n r : β) :
    some (changed o n r) = changedTo id (some o) (some n) (some r) := by
  refine (changedTo_some id o n r).trans ?_
  rw [Option.map_id]

/-- An `UPDATE` of an account sets each column on its own, whatever has become of the row since it
was read. -/
theorem exec_updateUtilisateur_colonnes {id : ℕ} {o : UtilisateurRow} {v : Utilisateur}
    {s s' : Tables} (h : exec (.updateUtilisateur id o v) s = some s') :
    ∃ f : UtilisateurRow → UtilisateurRow, s'.utilisateur = s.utilisateur.update id f ∧
      ∀ (c : Colonne) (r : UtilisateurRow), c.lire (Keyed.withKey id (f r)).toEntity
        = changedTo c.garder (c.lire o.toEntity) (c.lire v) (c.lire r.toEntity) := by
  simp only [exec] at h
  split at h
  · next email password date he hp hd =>
    split_ifs at h
    obtain rfl := (Option.some.inj h).symm
    refine ⟨_, rfl, fun c r => ?_⟩
    cases c with
    | email => exact (changedTo_some ..).trans (congrArg (changedTo _ _ · _) he.symm)
    | password => exact (changedTo_some ..).trans (congrArg (changedTo _ _ · _) hp.symm)
    | dateAdhesion => exact (changed_some ..).trans (congrArg (changedTo _ _ · _) hd.symm)
    | _ => rfl
  · cases h

/-- What a column of the account `u` holds, if the account is still there: the last of the changes
`ecrits`, or its first value.  The key of the account is not given again. -/
structure Tient (u : ℕ) (c : Colonne) (initiale : c.Valeur) (s : Tables) (ecrits : List c.Valeur) :
    Prop where
  lt_next : u < s.utilisateur.next
  valeur : ∀ row, s.utilisateur.find u = some row →
    c.lire row.toEntity = ecrits.getLast?.getD initiale

variable {u : ℕ} {c : Colonne} {initiale : c.Valeur} {s s' : Tables} {ecrits : List c.Valeur}

/-- A statement after which the account is what it was. -/
theorem Tient.of_find (h : Tient u c initiale s ecrits)
    (hnext : s.utilisateur.next ≤ s'.utilisateur.next)
    (hfind : ∀ row, s'.utilisateur.find u = some row → s.utilisateur.find u = some row) :
    Tient u c initiale s' ecrits :=
  ⟨Nat.lt_of_lt_of_le h.lt_next hnext, fun row hrow => h.valeur row (hfind row hrow)⟩

theorem append_change_none {w : Statement} (hw : w.change u c = none) (l : List c.Valeur) :
    l ++ (w.change u c).toList = l := by
  rw [hw, Option.toList_none, List.append_nil]

/-- **One statement.** -/
theorem Tient.exec {w : Statement} (h : Tient u c initiale s ecrits)
    (hw : Biblio.exec w s = some s') :
    Tient u c initiale s' (ecrits ++ (w.change u c).toList) := by
  have hframe := exec_frame hw
  cases w with
  | updateUtilisateur id o v =>
    obtain ⟨f, hs', hf⟩ := exec_updateUtilisateur_colonnes hw
    refine ⟨by rw [hs']; exact h.lt_next, fun row hrow => ?_⟩
    rw [hs'] at hrow
    by_cases hid : u = id
    · subst hid
      rw [Table.find_update_self] at hrow
      obtain ⟨r, hr, rfl⟩ := Option.map_eq_some_iff.mp hrow
      rw [hf]
      by_cases hv : c.lire v = c.lire o.toEntity
      · -- the column is not among those set
        rw [changedTo, if_pos hv, h.valeur r hr]
        simp [Statement.change, hv]
      · rw [changedTo, if_neg hv]
        simp [Statement.change, hv]
    · rw [Table.find_update_of_ne _ _ hid] at hrow
      have hnone : Statement.change u c (.updateUtilisateur id o v) = none :=
        if_neg fun hc => hid hc.1.symm
      rw [append_change_none hnone]
      exact h.valeur row hrow
  | insertUtilisateur v =>
    rw [append_change_none rfl]
    obtain ⟨row, -, hid, -, hnext, hmem⟩ := exec_insertUtilisateur hw
    refine h.of_find (by omega) fun r hr => ?_
    rw [Table.find_eq_some_iff] at hr ⊢
    -- the new account has a key of its own
    rcases (hmem r).mp hr.1 with rfl | hr'
    · have : r.id = u := hr.2
      have := h.lt_next
      omega
    · exact ⟨hr', hr.2⟩
  | deleteUtilisateur id =>
    rw [append_change_none rfl]
    have hs' := exec_deleteUtilisateur hw
    refine h.of_find (by rw [hs']; exact Nat.le_refl _) fun r hr => ?_
    rw [hs'] at hr
    rw [Table.find_eq_some_iff] at hr ⊢
    exact ⟨(Table.mem_delete.mp hr.1).1, hr.2⟩
  | _ =>
    rw [append_change_none rfl]
    have hsame := hframe.utilisateur Relation.noConfusion
    exact h.of_find (by rw [hsame]) fun r hr => by rw [← hsame]; exact hr

theorem Tient.commit : ∀ {ws : List Statement} {s : Tables} {ecrits : List c.Valeur},
    Tient u c initiale s ecrits → Biblio.commit ws s = some s' →
      Tient u c initiale s' (ecrits ++ ws.filterMap (Statement.change u c))
  | [], s, ecrits, h, hc => by
    obtain rfl := Option.some.inj hc
    simpa using h
  | w :: ws, s, ecrits, h, hc => by
    obtain ⟨s₁, h₁, h₂⟩ := commit_cons_eq_some hc
    have hrest := (h.exec h₁).commit h₂
    rw [List.append_assoc] at hrest
    cases hw : w.change u c with
    | none => simpa [hw] using hrest
    | some x => simpa [hw] using hrest

/-! ### Who changes what -/

/-- A row that an `UPDATE` of an account leaves, whatever has become of the row since it was read:
its email is the one it had, or one that no other account has. -/
theorem email_of_updateUtilisateur {id : ℕ} {o : UtilisateurRow} {v : Utilisateur} {s s' : Tables}
    (h : exec (.updateUtilisateur id o v) s = some s') :
    ∀ x ∈ s'.utilisateur.rows, ∃ r ∈ s.utilisateur.rows, x.id = r.id ∧
      (x.email = r.email ∨ r.id = id ∧ s.emailLibre id x.email = true) := by
  simp only [exec] at h
  split at h
  · next email password date he hp hd =>
    split_ifs at h with hok
    obtain rfl := (Option.some.inj h).symm
    intro x hx
    obtain ⟨r, hr, rfl⟩ := Table.mem_update.mp hx
    refine ⟨r, hr, Table.key_updateRow _ _ r, ?_⟩
    unfold Table.updateRow
    split_ifs with hid
    · rcases hok.2 with hsame | hlibre
      · left
        show changedTo (couper 180) o.email email r.email = r.email
        rw [changedTo, if_pos hsame]
      · by_cases hsame : email = o.email
        · left
          show changedTo (couper 180) o.email email r.email = r.email
          rw [changedTo, if_pos hsame]
        · refine Or.inr ⟨hid, ?_⟩
          show s.emailLibre id (changedTo (couper 180) o.email email r.email) = true
          rw [changedTo, if_neg hsame]
          exact hlibre
    · exact Or.inl rfl
  · cases h

/-- Every statement keeps the emails unique. -/
theorem emailsUniques_exec (w : Statement) (s s' : Tables) (h : exec w s = some s')
    (hs : EmailsUniques s) : EmailsUniques s' := by
  have hframe := exec_frame h
  intro x hx y hy hxy
  have hxy : s.memeEmail x.email y.email = true := by
    unfold Tables.memeEmail at hxy ⊢
    rw [← hframe.emailKey]
    exact hxy
  cases w with
  | insertUtilisateur v =>
    obtain ⟨row, -, -, hlibre, -, hmem⟩ := exec_insertUtilisateur h
    have hnew : ∀ z ∈ s.utilisateur.rows, s.memeEmail z.email row.email = false := fun z hz =>
      (emailLibre_iff s 0 _).mp hlibre z hz (Nat.ne_of_gt (s.utilisateur.pos z hz))
    rcases (hmem x).mp hx with rfl | hx <;> rcases (hmem y).mp hy with rfl | hy
    · rfl
    · rw [memeEmail_comm, hnew y hy] at hxy
      cases hxy
    · rw [hnew x hx] at hxy
      cases hxy
    · exact hs x hx y hy hxy
  | updateUtilisateur id o v =>
    have hrows := email_of_updateUtilisateur h
    obtain ⟨r, hr, hidx, hx'⟩ := hrows x hx
    obtain ⟨r', hr', hidy, hy'⟩ := hrows y hy
    -- the two rows have one key, so they are one row
    suffices hkey : r.id = r'.id from
      s'.utilisateur.eq_of_key_eq hx hy (hidx.trans (hkey.trans hidy.symm))
    by_contra hne
    rcases hx' with hx' | ⟨hrid, hlibre⟩
    · rcases hy' with hy' | ⟨hrid', hlibre⟩
      · rw [hx', hy'] at hxy
        exact hne (congrArg UtilisateurRow.id (hs r hr r' hr' hxy))
      · have := (emailLibre_iff s _ _).mp hlibre r hr fun h => hne (h.trans hrid'.symm)
        rw [hx', this] at hxy
        cases hxy
    · rcases hy' with hy' | ⟨hrid', -⟩
      · have := (emailLibre_iff s _ _).mp hlibre r' hr' fun h => hne (hrid.trans h.symm)
        rw [memeEmail_comm, hy', this] at hxy
        cases hxy
      · exact hne (hrid.trans hrid'.symm)
  | deleteUtilisateur id =>
    rw [exec_deleteUtilisateur h] at hx hy
    exact hs x (Table.mem_delete.mp hx).1 y (Table.mem_delete.mp hy).1 hxy
  | _ =>
    rw [hframe.utilisateur Relation.noConfusion] at hx hy
    exact hs x hx y hy hxy

/-- **Emails under overlapping requests.**  In every interleaving of any requests, from tables with
unique emails, the email of an account leads back to that account and to no other.  The unique key
of the schema is enough for this: nothing is used of what the handlers check before. -/
theorem emails_unique_in_interleavings (services : Services) (s : Tables) (hs : EmailsUniques s)
    (es : List (Event Requete)) :
    let s' := (run (Config.step (Requete.handler services)) (Config.idle s) es).store
    ∀ row ∈ s'.utilisateur.rows, ∀ email,
      s'.findByEmail email = some row ↔ s'.memeEmail row.email email = true := by
  intro s' row hrow email
  have hs' : EmailsUniques s' :=
    Config.store_preserves emailsUniques_exec (Requete.handler services) es hs
  constructor
  · intro h
    exact (mem_of_findByEmail h).2
  · intro hmeme
    cases hfind : s'.findByEmail email with
    | none =>
      have := List.find?_eq_none.mp hfind row hrow
      exact absurd hmeme this
    | some a => rw [(findByEmail_eq_some hs' hfind row hrow).mp hmeme]

/-- Two librarians create an account with one email at once: one account has it. -/
theorem emails_unique_two_accounts :
    let form := Exemple.fiche "x@articles.fr" (some "password") (by decide)
    let s' := (run (Config.step (Requete.handler Exemple.services))
      (Config.idle (Exemple.tables .empty .empty))
      [.arrive (.utilisateurNew ["ROLE_BIBLIO"] form 0 0),
        .arrive (.utilisateurNew ["ROLE_BIBLIO"] form 1 0), .advance 0, .advance 1]).store
    s'.utilisateur.rows.length = 5 ∧
      ∀ row ∈ s'.utilisateur.rows, s'.findByEmail row.email = some row := by
  intro form s'
  refine ⟨by decide, fun row hrow => ?_⟩
  have hunique := emails_unique_in_interleavings Exemple.services _ emailsUniques_exemple _ row hrow
  refine (hunique _).mpr ?_
  exact beq_self_eq_true _

end Biblio
