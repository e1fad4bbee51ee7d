import Biblio.Equiv.Deletion
import Biblio.Equiv.Units
import Biblio.Store.Cell

/-!
# The links of a book in interleavings

The form of a book binds two collections, and its flush deletes and inserts the links in which the
form differs from what the request has read.  So overlapping requests merge: in every interleaving a
link is what the last committed change of it says, and a change is either the deletion of the book
or of what it is linked to, or that of a form that differs from what its own request had read before
(`links_merge`).  What the request has read is the database as it is when the form is saved, not as
it was when the form was opened: an old form puts back a link that was removed in between.  A link
that another request has inserted since cannot be inserted again: the unit of work is rolled back as
a whole, with all other changes of its form.
-/

namespace Biblio

open Prog

/-! ### The two collections -/

/-- The collections of a book. -/
inductive Collection where
  | auteurs
  | categories
  deriving DecidableEq

namespace Collection

/-- The link table of a collection. -/
def liens : Collection → Base → Liens
  | auteurs, b => b.livreAuteur
  | categories, b => b.livreCategorie

/-- The base with another link table. -/
def poser : Collection → Base → Liens → Base
  | auteurs, b, l => { b with livreAuteur := l }
  | categories, b, l => { b with livreCategorie := l }

/-- What a book may be linked to. -/
def has : Collection → Base → ℕ → Bool
  | auteurs, b => b.hasAuteur
  | categories, b => b.hasCategorie

/-- The field of a collection, in a form with the two of them. -/
def choisis : Collection → List ℕ → List ℕ → List ℕ
  | auteurs, as, _ => as
  | categories, _, cs => cs

/-- The statement that inserts a link. -/
def inserer : Collection → ℕ → ℕ → Instruction
  | auteurs => .insertLivreAuteur
  | categories => .insertLivreCategorie

/-- The statement that deletes a link. -/
def supprimer : Collection → ℕ → ℕ → Instruction
  | auteurs => .deleteLivreAuteur
  | categories => .deleteLivreCategorie

/-- The link is there. -/
def lie (c : Collection) (livre autre : ℕ) (b : Base) : Bool := (c.liens b).contains (livre, autre)

theorem lie_eq_true {c : Collection} {livre autre : ℕ} {b : Base} :
    c.lie livre autre b = true ↔ (livre, autre) ∈ c.liens b :=
  List.contains_iff_mem

@[simp] theorem liens_poser (c : Collection) (b : Base) (l : Liens) :
    c.liens (c.poser b l) = l := by
  cases c <;> rfl

theorem liens_poser_of_ne {c c' : Collection} (h : c' ≠ c) (b : Base) (l : Liens) :
    c'.liens (c.poser b l) = c'.liens b := by
  cases c <;> cases c' <;> first | rfl | exact absurd rfl h

@[simp] theorem tables_poser (c : Collection) (b : Base) (l : Liens) :
    (c.poser b l).tables = b.tables := by
  cases c <;> rfl

@[simp] theorem has_poser (c c' : Collection) (b : Base) (l : Liens) :
    c'.has (c.poser b l) = c'.has b := by
  cases c <;> cases c' <;> rfl

theorem execBase_inserer (c : Collection) (livre autre : ℕ) (b : Base) :
    execBase (c.inserer livre autre) b =
      ((c.liens b).inserer b.tables.hasLivre (c.has b) livre autre).map (c.poser b) := by
  cases c <;> rfl

theorem execBase_supprimer (c : Collection) (livre autre : ℕ) (b : Base) :
    execBase (c.supprimer livre autre) b =
      some (c.poser b ((c.liens b).retirer livre autre)) := by
  cases c <;> rfl

end Collection

/-- What a statement does to a link of a book that has been there: it sets it, deletes it or leaves
it. -/
def Instruction.lien (c : Collection) (livre autre : ℕ) : Instruction → Option Bool
  | .prets (.deleteLivre id) => if id = livre then some false else none
  | .insertLivreAuteur l a => if c = .auteurs ∧ (l, a) = (livre, autre) then some true else none
  | .deleteLivreAuteur l a => if c = .auteurs ∧ (l, a) = (livre, autre) then some false else none
  | .insertLivreCategorie l a =>
    if c = .categories ∧ (l, a) = (livre, autre) then some true else none
  | .deleteLivreCategorie l a =>
    if c = .categories ∧ (l, a) = (livre, autre) then some false else none
  | .deleteAuteur id => if c = .auteurs ∧ id = autre then some false else none
  | .deleteCategorie id => if c = .categories ∧ id = autre then some false else none
  | _ => none

theorem lien_inserer (c c' : Collection) (livre autre l a : ℕ) :
    Instruction.lien c livre autre (c'.inserer l a)
      = if c = c' ∧ (l, a) = (livre, autre) then some true else none := by
  cases c' <;> rfl

theorem lien_supprimer (c c' : Collection) (livre autre l a : ℕ) :
    Instruction.lien c livre autre (c'.supprimer l a)
      = if c = c' ∧ (l, a) = (livre, autre) then some false else none := by
  cases c' <;> rfl

/-! ### Link tables -/

namespace Liens

variable {liens liens' : Liens} {livre autre : ℕ} {e : ℕ × ℕ}

theorem mem_retirer : e ∈ liens.retirer livre autre ↔ e ∈ liens ∧ e ≠ (livre, autre) := by
  rw [retirer, List.mem_filter, bne_iff_ne]

theorem mem_sansLivre : e ∈ liens.sansLivre livre ↔ e ∈ liens ∧ e.1 ≠ livre := by
  rw [sansLivre, List.mem_filter, bne_iff_ne]

theorem mem_sansAutre_iff : e ∈ liens.sansAutre autre ↔ e ∈ liens ∧ e.2 ≠ autre := by
  rw [sansAutre, List.mem_filter, bne_iff_ne]

theorem inserer_eq_some {hasLivre hasAutre : ℕ → Bool}
    (h : liens.inserer hasLivre hasAutre livre autre = some liens') :
    (livre, autre) ∉ liens ∧ liens' = liens ++ [(livre, autre)] := by
  unfold inserer at h
  split_ifs at h with hguard
  exact ⟨hguard.2.2, (Option.some.inj h).symm⟩

end Liens

/-! ### One statement -/

/-- A statement does to a link what `lien` says. -/
structure Suit (c : Collection) (livre autre : ℕ) (o : Option Bool) (b b' : Base) : Prop where
  next : b.tables.livre.next ≤ b'.tables.livre.next
  lie : c.lie livre autre b' = o.getD (c.lie livre autre b)
  nouveau : o = some true → c.lie livre autre b = false

section Statements

variable {c : Collection} {livre autre : ℕ} {b b' : Base}

/-- A statement that leaves the link tables. -/
theorem Suit.of_liens (hnext : b.tables.livre.next ≤ b'.tables.livre.next)
    (h : c.liens b' = c.liens b) : Suit c livre autre none b b' := by
  refine ⟨hnext, ?_, fun hnone => ?_⟩
  · show (c.liens b').contains _ = (c.liens b).contains _
    rw [h]
  · cases hnone

/-- A statement that sets one link table. -/
theorem Suit.of_mem {o : Option Bool} (hnext : b.tables.livre.next ≤ b'.tables.livre.next)
    (h : (livre, autre) ∈ c.liens b' ↔ o.getD (c.lie livre autre b) = true)
    (hnew : o = some true → (livre, autre) ∉ c.liens b) : Suit c livre autre o b b' := by
  refine ⟨hnext, ?_, fun ho => ?_⟩
  · rw [Bool.eq_iff_iff, Collection.lie_eq_true, h]
  · rw [← Bool.not_eq_true, Collection.lie_eq_true]
    exact hnew ho

theorem next_livre_exec {w : Statement} {s s' : Tables} (h : exec w s = some s') :
    s.livre.next ≤ s'.livre.next := by
  by_cases hcible : w.cible = .livre
  · cases w with
    | insertLivre v =>
      simp only [exec] at h
      split at h
      · split_ifs at h
        obtain rfl := Option.some.inj h
        exact Nat.le_succ _
      · cases h
    | updateLivre id o v =>
      simp only [exec] at h
      split at h
      · split_ifs at h
        obtain rfl := Option.some.inj h
        exact Nat.le_refl _
      · cases h
    | deleteLivre id =>
      simp only [exec] at h
      split_ifs at h
      obtain rfl := Option.some.inj h
      exact Nat.le_refl _
    | _ => exact Relation.noConfusion hcible
  · rw [(exec_frame h).livre hcible]

variable (c livre autre)

theorem suit_prets {w : Statement} (h : execBase (.prets w) b = some b') :
    Suit c livre autre (Instruction.lien c livre autre (.prets w)) b b' := by
  obtain ⟨s', hs', rfl⟩ := Option.map_eq_some_iff.mp h
  have hnext := next_livre_exec hs'
  cases w with
  | deleteLivre id =>
    have hliens : c.liens { b with
        tables := s'
        livreAuteur := (Statement.deleteLivre id).cascade b.livreAuteur
        livreCategorie := (Statement.deleteLivre id).cascade b.livreCategorie }
          = (c.liens b).sansLivre id := by
      cases c <;> rfl
    refine .of_mem hnext ?_ fun ho => ?_
    · rw [hliens, Liens.mem_sansLivre]
      by_cases hid : id = livre
      · simp [Instruction.lien, hid]
      · simp [Instruction.lien, hid, Collection.lie_eq_true, Ne.symm hid]
    · simp only [Instruction.lien] at ho
      split_ifs at ho
      cases ho
  | _ =>
    refine .of_liens hnext ?_
    cases c <;> rfl

theorem suit_inserer (c' : Collection) {l a : ℕ} (h : execBase (c'.inserer l a) b = some b') :
    Suit c livre autre (Instruction.lien c livre autre (c'.inserer l a)) b b' := by
  rw [Collection.execBase_inserer] at h
  obtain ⟨liens, hliens, rfl⟩ := Option.map_eq_some_iff.mp h
  obtain ⟨hnew, rfl⟩ := Liens.inserer_eq_some hliens
  rw [lien_inserer]
  by_cases hc : c = c'
  · subst hc
    refine .of_mem (by simp) ?_ fun ho => ?_
    · rw [Collection.liens_poser, List.mem_append, List.mem_singleton]
      split_ifs with hpair
      · simp [← hpair.2]
      · have hne : (livre, autre) ≠ (l, a) := fun heq => hpair ⟨rfl, heq.symm⟩
        simp [Collection.lie_eq_true, hne]
    · split_ifs at ho with hpair
      rw [← hpair.2]
      exact hnew
  · rw [if_neg fun hand => hc hand.1]
    exact .of_liens (by simp) (Collection.liens_poser_of_ne hc _ _)

theorem suit_supprimer (c' : Collection) {l a : ℕ} (h : execBase (c'.supprimer l a) b = some b') :
    Suit c livre autre (Instruction.lien c livre autre (c'.supprimer l a)) b b' := by
  rw [Collection.execBase_supprimer] at h
  obtain rfl := Option.some.inj h
  rw [lien_supprimer]
  by_cases hc : c = c'
  · subst hc
    refine .of_mem (by simp) ?_ fun ho => ?_
    · rw [Collection.liens_poser, Liens.mem_retirer]
      split_ifs with hpair
      · simp [← hpair.2]
      · have hne : (livre, autre) ≠ (l, a) := fun heq => hpair ⟨rfl, heq.symm⟩
        simp [Collection.lie_eq_true, hne]
    · split_ifs at ho
      cases ho
  · rw [if_neg fun hand => hc hand.1]
    exact .of_liens (by simp) (Collection.liens_poser_of_ne hc _ _)

/-- The links of a new book are no links of a book that has been there. -/
theorem suit_foldlM (c' : Collection) {l : ℕ} (hl : livre ≠ l) : ∀ (as : List ℕ) {b b' : Base},
    as.foldlM (fun b a => execBase (c'.inserer l a) b) b = some b' →
      Suit c livre autre none b b'
  | [], b, b', h => by
    obtain rfl := Option.some.inj h
    exact .of_liens (Nat.le_refl _) rfl
  | a :: as, b, b', h => by
    obtain ⟨b₁, h₁, h₂⟩ := Option.bind_eq_some_iff.mp h
    have hne : (l, a) ≠ (livre, autre) := fun heq => hl (congrArg Prod.fst heq).symm
    have hfirst := suit_inserer c livre autre c' h₁
    rw [lien_inserer, if_neg fun hand => hne hand.2] at hfirst
    have hrest := suit_foldlM c' hl as h₂
    refine ⟨Nat.le_trans hfirst.next hrest.next, hrest.lie.trans hfirst.lie, fun hnone => ?_⟩
    cases hnone

/-- The cascade of the deletion of what books are linked to. -/
theorem suit_sansAutre (c' : Collection) {id : ℕ} (htables : b'.tables = b.tables)
    (hliens : c'.liens b' = (c'.liens b).sansAutre id) (hother : c ≠ c' → c.liens b' = c.liens b) :
    Suit c livre autre (if c = c' ∧ id = autre then some false else none) b b' := by
  have hnext : b.tables.livre.next ≤ b'.tables.livre.next := by rw [htables]
  by_cases hc : c = c'
  · subst hc
    refine .of_mem hnext ?_ fun ho => ?_
    · rw [hliens, Liens.mem_sansAutre_iff]
      by_cases hid : id = autre
      · simp [hid]
      · simp [hid, Collection.lie_eq_true, Ne.symm hid]
    · split_ifs at ho
      cases ho
  · rw [if_neg fun hand => hc hand.1]
    exact .of_liens hnext (hother hc)

/-- **One statement.** -/
theorem suit_execBase {i : Instruction} (h : execBase i b = some b')
    (hlivre : livre < b.tables.livre.next) :
    Suit c livre autre (i.lien c livre autre) b b' := by
  cases i with
  | prets w => exact suit_prets c livre autre h
  | insertLivre v auteurs categories =>
    obtain ⟨s', hs', h⟩ := Option.bind_eq_some_iff.mp h
    obtain ⟨b₁, h₁, h₂⟩ := Option.bind_eq_some_iff.mp h
    -- the links inserted are those of a key that no book has had
    have hne : livre ≠ b.tables.livre.next := Nat.ne_of_lt hlivre
    have hlivre := suit_prets c livre autre (b := b) (w := .insertLivre v)
      (congrArg (Option.map _) hs')
    have hauteurs := suit_foldlM c livre autre .auteurs hne auteurs h₁
    have hcategories := suit_foldlM c livre autre .categories hne categories h₂
    refine ⟨?_, ?_, fun hnone => ?_⟩
    · exact Nat.le_trans hlivre.next (Nat.le_trans hauteurs.next hcategories.next)
    · exact hcategories.lie.trans (hauteurs.lie.trans hlivre.lie)
    · cases hnone
  | insertLivreAuteur l a => exact suit_inserer c livre autre .auteurs h
  | deleteLivreAuteur l a => exact suit_supprimer c livre autre .auteurs h
  | insertLivreCategorie l a => exact suit_inserer c livre autre .categories h
  | deleteLivreCategorie l a => exact suit_supprimer c livre autre .categories h
  | deleteAuteur id =>
    obtain rfl := Option.some.inj h
    refine suit_sansAutre c livre autre .auteurs rfl rfl fun hc => ?_
    cases c with
    | auteurs => exact absurd rfl hc
    | categories => rfl
  | deleteCategorie id =>
    obtain rfl := Option.some.inj h
    refine suit_sansAutre c livre autre .categories rfl rfl fun hc => ?_
    cases c with
    | auteurs => rfl
    | categories => exact absurd rfl hc
  | insertAuteur v | updateAuteur id o v | insertCategorie v | updateCategorie id o v =>
    simp only [execBase] at h
    split at h
    · split_ifs at h
      obtain rfl := Option.some.inj h
      refine .of_liens (Nat.le_refl _) ?_
      cases c <;> rfl
    · cases h

end Statements

/-- A link of a book that has been there, as a cell: it is inserted only where it is not there. -/
def celluleLien (c : Collection) (livre autre : ℕ) : Cell Base Instruction Bool where
  get := c.lie livre autre
  write := Instruction.lien c livre autre
  ok x v := v = true → x = false
  I b := livre < b.tables.livre.next
  inv h hI := Nat.lt_of_lt_of_le hI (suit_execBase c livre autre h hI).next
  left h hI hw := by
    have hsuit := suit_execBase c livre autre h hI
    rw [hw] at hsuit
    exact hsuit.lie
  set h hI hw := by
    have hsuit := suit_execBase c livre autre h hI
    rw [hw] at hsuit
    exact ⟨hsuit.lie, fun hv => hsuit.nouveau (congrArg some hv)⟩

/-! ### Who changes a link -/

/-- Why a request changes a link to `v`: it deletes the book or what it is linked to, or its form
differs from contents that meet `V`. -/
def RequeteBase.Change (V : Base → Prop) (c : Collection) (livre autre : ℕ) (v : Bool) :
    RequeteBase → Prop
  | .livreEdit acteur entityId _ auteurs categories =>
    isGranted acteur "ROLE_ADMIN" = true ∧ entityId = livre ∧
      v = decide (autre ∈ c.choisis auteurs categories) ∧
      ∃ b, V b ∧ c.lie livre autre b = !v
  | .prets (.livreDelete acteur entityId) =>
    isGranted acteur "ROLE_ADMIN" = true ∧ entityId = livre ∧ v = false
  | .auteurDelete acteur entityId =>
    isGranted acteur "ROLE_ADMIN" = true ∧ c = .auteurs ∧ entityId = autre ∧ v = false
  | .categorieDelete acteur entityId =>
    isGranted acteur "ROLE_ADMIN" = true ∧ c = .categories ∧ entityId = autre ∧ v = false
  | _ => False

section Requests

variable {V : Base → Prop} {c : Collection} {livre autre : ℕ} {v : Bool} {ws : List Instruction}

theorem makes_flushEtRepondre {ws' : List Instruction}
    (h : (flushEtRepondre ws').Makes V ws) : ws' = ws := by
  rcases h with h | ⟨b, hb⟩
  · exact h
  · exact hb.elim

theorem makes_pourAdmin {acteur : List String} {page : HandlerBase}
    (h : (pourAdmin acteur page).Makes V ws) :
    isGranted acteur "ROLE_ADMIN" = true ∧ page.Makes V ws := by
  rcases makes_ite h with ⟨-, h⟩ | ⟨hadmin, h⟩
  · exact h.elim
  · exact ⟨not_granted hadmin, h⟩

theorem makes_pageDe {β : Type} {trouver : Base → Option β} {page : β → HandlerBase}
    (h : (pageDe trouver page).Makes V ws) : ∃ row, (page row).Makes V ws := by
  obtain ⟨b, -, h⟩ := makes_read_bind h
  split at h
  · exact h.elim
  · next row _ => exact ⟨row, h⟩

/-- The unit of work of EDIT, after the contents it has read. -/
theorem makes_editLie {services : Services} {acteur : List String} {entityId : ℕ} {form : Livre}
    {auteurs categories : List ℕ}
    (h : (LivreCrudController.editLie services acteur entityId form auteurs categories).Makes V
      ws) :
    isGranted acteur "ROLE_ADMIN" = true ∧ ∃ row b₁ b₂, V b₁ ∧ V b₂ ∧
      [.prets (.updateLivre entityId row form)] ++
        LivreCrudController.synchroniser (.deleteLivreAuteur entityId) (.insertLivreAuteur entityId)
          (LivreCrudController.lies entityId b₁.livreAuteur) auteurs ++
        LivreCrudController.synchroniser (.deleteLivreCategorie entityId)
          (.insertLivreCategorie entityId)
          (LivreCrudController.lies entityId b₂.livreCategorie) categories = ws := by
  obtain ⟨hadmin, h⟩ := makes_pourAdmin h
  obtain ⟨row, h⟩ := makes_pageDe h
  refine ⟨hadmin, row, ?_⟩
  rcases makes_ite h with ⟨-, h⟩ | ⟨-, h⟩
  · exact h.elim
  · obtain ⟨b₀, -, h⟩ := makes_read_bind h
    rcases makes_ite h with ⟨-, h⟩ | ⟨-, h⟩
    · obtain ⟨b₁, hb₁, h⟩ := makes_read_bind h
      obtain ⟨b₂, hb₂, h⟩ := makes_read_bind h
      exact ⟨b₁, b₂, hb₁, hb₂, makes_flushEtRepondre h⟩
    · exact h.elim

/-- A book is deleted by its action. -/
theorem livreDelete_of_unite {services : Services} {r : Requete} {ws₀ : List Statement} {id : ℕ}
    (h : Unite services r ws₀) (hmem : Statement.deleteLivre id ∈ ws₀) :
    ∃ acteur, r = .livreDelete acteur id ∧ isGranted acteur "ROLE_ADMIN" = true := by
  cases h with
  | livreDelete resas hadmin =>
    rcases List.mem_append.mp hmem with hmem | hmem
    · obtain ⟨resa, -, heq⟩ := List.mem_map.mp hmem
      cases heq
    · obtain rfl := Statement.deleteLivre.inj (List.mem_singleton.mp hmem)
      exact ⟨_, rfl, hadmin⟩
  | empruntNew resa =>
    rcases List.mem_cons.mp hmem with heq | hmem
    · cases heq
    · obtain ⟨id', heq⟩ := eq_delete_of_mem_toList hmem
      cases heq
  | transformerEnEmprunt resa =>
    rcases List.mem_cons.mp hmem with heq | hmem
    · cases heq
    · cases List.mem_singleton.mp hmem
  | utilisateurDelete resas hadmin =>
    rcases List.mem_append.mp hmem with hmem | hmem
    · obtain ⟨resa, -, heq⟩ := List.mem_map.mp hmem
      cases heq
    · cases List.mem_singleton.mp hmem
  | _ => cases List.mem_singleton.mp hmem

theorem mem_lies {liens : Liens} {l a : ℕ} :
    a ∈ LivreCrudController.lies l liens ↔ (l, a) ∈ liens := by
  simp only [LivreCrudController.lies, List.mem_map, List.mem_filter, beq_iff_eq, Prod.exists]
  constructor
  · rintro ⟨l', a', ⟨hmem, rfl⟩, rfl⟩
    exact hmem
  · intro hmem
    exact ⟨l, a, ⟨hmem, rfl⟩, rfl⟩

/-- The statements on the links of a book change those in which the form differs from what was
read. -/
theorem lien_synchroniser (c' : Collection) {l : ℕ} {lus choisis : List ℕ} {i : Instruction}
    (hi : i ∈ LivreCrudController.synchroniser (c'.supprimer l) (c'.inserer l) lus choisis)
    (hv : i.lien c livre autre = some v) :
    c = c' ∧ l = livre ∧ v = decide (autre ∈ choisis) ∧ (autre ∈ lus ↔ v = false) := by
  rcases List.mem_append.mp hi with hi | hi
  · obtain ⟨a, ha, rfl⟩ := List.mem_map.mp hi
    obtain ⟨hlus, hchoisis⟩ := List.mem_filter.mp ha
    rw [lien_supprimer] at hv
    split_ifs at hv with hpair
    obtain ⟨rfl, hpair⟩ := hpair
    obtain ⟨rfl, rfl⟩ := Prod.mk.inj hpair
    obtain rfl := Option.some.inj hv
    refine ⟨rfl, rfl, ?_, by simp [hlus]⟩
    simpa using hchoisis
  · obtain ⟨a, ha, rfl⟩ := List.mem_map.mp hi
    obtain ⟨hchoisis, hlus⟩ := List.mem_filter.mp ha
    rw [lien_inserer] at hv
    split_ifs at hv with hpair
    obtain ⟨rfl, hpair⟩ := hpair
    obtain ⟨rfl, rfl⟩ := Prod.mk.inj hpair
    obtain rfl := Option.some.inj hv
    refine ⟨rfl, rfl, ?_, by simpa using hlus⟩
    simpa using List.mem_dedup.mp hchoisis

/-- A statement of EDIT on the links of a book. -/
theorem change_of_synchroniser (c' : Collection) {acteur : List String} {l : ℕ} {form : Livre}
    {auteurs categories : List ℕ} {i : Instruction} (hadmin : isGranted acteur "ROLE_ADMIN" = true)
    {b : Base} (hb : V b)
    (hi : i ∈ LivreCrudController.synchroniser (c'.supprimer l) (c'.inserer l)
      (LivreCrudController.lies l (c'.liens b)) (c'.choisis auteurs categories))
    (hv : i.lien c livre autre = some v) :
    RequeteBase.Change V c livre autre v (.livreEdit acteur l form auteurs categories) := by
  obtain ⟨rfl, rfl, hchoisis, hlus⟩ := lien_synchroniser c' hi hv
  refine ⟨hadmin, rfl, hchoisis, b, hb, ?_⟩
  rw [mem_lies, ← Collection.lie_eq_true] at hlus
  cases v with
  | false => exact hlus.mpr rfl
  | true => exact Bool.eq_false_iff.mpr fun htrue => Bool.noConfusion (hlus.mp htrue)

/-- A request changes a link only for a reason. -/
theorem change_of_makes {services : Services} {r : RequeteBase}
    (h : (r.handler services).Makes V ws) {i : Instruction} (hi : i ∈ ws)
    (hv : i.lien c livre autre = some v) : r.Change V c livre autre v := by
  cases r with
  | prets r =>
    obtain ⟨ws₀, hws₀, rfl⟩ := makes_of_lift h
    obtain ⟨f, hunite⟩ := (endsBy_requete services r).of_makes hws₀
    obtain ⟨w, hw, rfl⟩ := List.mem_map.mp hi
    cases w with
    | deleteLivre id =>
      simp only [Instruction.lien] at hv
      split_ifs at hv with hid
      obtain ⟨acteur, rfl, hadmin⟩ := livreDelete_of_unite hunite hw
      exact ⟨hadmin, hid, (Option.some.inj hv).symm⟩
    | _ => cases hv
  | livreNew acteur form auteurs categories =>
    obtain ⟨-, h⟩ := makes_pourAdmin h
    obtain ⟨b, -, h⟩ := makes_read_bind h
    rcases makes_ite h with ⟨-, h⟩ | ⟨-, h⟩
    · obtain rfl := makes_flushEtRepondre h
      rw [List.mem_singleton.mp hi] at hv
      cases hv
    · exact h.elim
  | livreEdit acteur entityId form auteurs categories =>
    obtain ⟨hadmin, row, b₁, b₂, hb₁, hb₂, rfl⟩ := makes_editLie h
    rcases List.mem_append.mp hi with hi | hi
    rcases List.mem_append.mp hi with hi | hi
    · rw [List.mem_singleton.mp hi] at hv
      cases hv
    · exact change_of_synchroniser .auteurs hadmin hb₁ hi hv
    · exact change_of_synchroniser .categories hadmin hb₂ hi hv
  | auteurDelete acteur entityId | categorieDelete acteur entityId =>
    obtain ⟨hadmin, h⟩ := makes_pourAdmin h
    obtain ⟨row, h⟩ := makes_pageDe h
    obtain rfl := makes_flushEtRepondre h
    rw [List.mem_singleton.mp hi] at hv
    simp only [Instruction.lien] at hv
    split_ifs at hv with hand
    exact ⟨hadmin, hand.1, hand.2, (Option.some.inj hv).symm⟩
  | auteurNew acteur form | categorieNew acteur form =>
    obtain ⟨-, h⟩ := makes_pourAdmin h
    obtain rfl := makes_flushEtRepondre h
    rw [List.mem_singleton.mp hi] at hv
    cases hv
  | auteurEdit acteur entityId form | categorieEdit acteur entityId form =>
    obtain ⟨-, h⟩ := makes_pourAdmin h
    obtain ⟨row, h⟩ := makes_pageDe h
    rcases makes_ite h with ⟨-, h⟩ | ⟨-, h⟩
    · exact h.elim
    · obtain rfl := makes_flushEtRepondre h
      rw [List.mem_singleton.mp hi] at hv
      cases hv

end Requests

/-! ### Interleavings -/

/-- The interleavings of the requests to the whole database, with the journal of what they
commit. -/
abbrev JournalBase := Logged Base Instruction Reponse RequeteBase

/-- An interleaving from the base `b`. -/
def entrelacerBase (services : Services) (b : Base) (es : List (Event RequeteBase)) : JournalBase :=
  run (Logged.step (RequeteBase.handler services)) (Logged.idle b) es

/-- A base that the `i`-th request of an interleaving has seen, at one of its accesses. -/
def Vue (services : Services) (b : Base) (es : List (Event RequeteBase)) (i : ℕ) (t : Base) :
    Prop :=
  ∃ es', es' ++ [.advance i] <+: es ∧ t = (entrelacerBase services b es').config.store

/-- **Overlapping edits merge.**  In every interleaving of any requests, from any moment of it on, a
link of a book that has been there goes through the changes of the units of work committed since,
and is inserted only where it is not there.  Each of these units of work is that of a request; and
where it changes the link, the request is an administrator's deletion of the book or of what it is
linked to, or his form of the book, and this differs in the link from what the request had seen at
one of its own accesses before. -/
theorem links_merge (services : Services) (b : Base) (es es' : List (Event RequeteBase))
    (c : Collection) (livre autre : ℕ)
    (hlivre : livre < (entrelacerBase services b es).config.store.tables.livre.next) :
    ∃ commits, (entrelacerBase services b (es ++ es')).journal
        = (entrelacerBase services b es).journal ++ commits ∧
      Writes (fun x v => v = true → x = false)
        (c.lie livre autre (entrelacerBase services b es).config.store)
        (commits.flatMap fun x => x.2.filterMap (Instruction.lien c livre autre))
        (c.lie livre autre (entrelacerBase services b (es ++ es')).config.store) ∧
      ∀ x ∈ commits, ∃ es₁ i, es₁ ++ [.advance i] <+: es' ∧
        (∃ k, (entrelacerBase services b (es ++ es₁)).config.procs[i]?
          = some (x.1, .flush x.2 k)) ∧
        ∀ w ∈ x.2, ∀ v, w.lien c livre autre = some v →
          x.1.Change (Vue services b (es ++ es₁) i) c livre autre v := by
  have hrun : ∀ es₁, run (Logged.step (RequeteBase.handler services))
      (entrelacerBase services b es) es₁ = entrelacerBase services b (es ++ es₁) :=
    fun es₁ => (run_append _ _ es es₁).symm
  obtain ⟨commits, hjournal, hwrites⟩ := (celluleLien c livre autre).writes_run
    (RequeteBase.handler services) es' (entrelacerBase services b es) hlivre
  obtain ⟨commits', hjournal', hflush⟩ :=
    Logged.exists_flush_of_run es' (entrelacerBase services b es)
  -- both lists are what the journal has got since
  obtain rfl : commits = commits' := List.append_cancel_left (hjournal.symm.trans hjournal')
  rw [hrun] at hjournal hwrites
  refine ⟨commits, hjournal, hwrites, fun x hx => ?_⟩
  obtain ⟨es₁, i, k, hpre, hproc⟩ := hflush x hx
  rw [hrun] at hproc
  refine ⟨es₁, i, hpre, ⟨k, hproc⟩, fun w hw v hv => ?_⟩
  have hmakes : (x.1.handler services).Makes (Vue services b (es ++ es₁) i) x.2 :=
    Logged.makes_of_procs b (es ++ es₁) hproc (fun _ ht => ht) (Or.inl rfl)
  exact change_of_makes hmakes hw hv

/-- Two administrators save the form of a book, and both requests read the book before either
flushes: one drops the category, the other one drops the author and keeps the category.  Both links
are gone. -/
theorem links_merge_two_editors :
    let form : Livre := ⟨none, some "Perrot", none, some "Français", none⟩
    let es : List (Event RequeteBase) :=
      [.arrive (.livreEdit ["ROLE_ADMIN"] 1 form [1] []),
        .arrive (.livreEdit ["ROLE_ADMIN"] 1 form [] [1]),
        .advance 0, .advance 1, .advance 0, .advance 1, .advance 0, .advance 1, .advance 0,
        .advance 1, .advance 0, .advance 1]
    let fin := (entrelacerBase Exemple.services (Exemple.base .empty .empty) es).config.store
    Collection.categories.lie 1 1 fin = false ∧ Collection.auteurs.lie 1 1 fin = false := by
  intro form es fin
  have hlie : ∀ c : Collection,
      ((entrelacerBase Exemple.services (Exemple.base .empty .empty) es).journal.flatMap fun x =>
        x.2.filterMap (Instruction.lien c 1 1)) = [false] → c.lie 1 1 fin = false := by
    intro c hecrits
    obtain ⟨commits, hjournal, hwrites, -⟩ :=
      links_merge Exemple.services (Exemple.base .empty .empty) [] es c 1 1 (by decide)
    rw [show commits = (entrelacerBase Exemple.services (Exemple.base .empty .empty) es).journal
      from hjournal.symm, hecrits] at hwrites
    exact hwrites.getLast
  exact ⟨hlie .categories (by decide +kernel), hlie .auteurs (by decide +kernel)⟩

end Biblio
