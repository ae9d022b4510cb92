import Mathlib.Data.List.Induction
import Mathlib.Tactic.Common

/-!
# Arrangements of a list

`Arranged r items zs` says that `zs` has the items of the list `items` so that any two of them
stand as `r` answers when it is asked whether the later one is less than the earlier one. The
relation `r` need not be a strict order: it may well hold both ways, or of an item and itself.
`Merges r xs ys zs` says the same of the items of two lists against each other, where the items of
`ys` are the later ones. Read `Arranged.append` first: merging arrangements of two lists arranges
the lists joined together.

What a search in an arrangement relies on is `Coherent r`: the relation and its negation are both
transitive. An arrangement is then in ascending order in the sense of `NoLater`.
-/

namespace StoryLint.Order

variable {α β : Type} {r : α → α → Bool}

/-- The relation and its negation are transitive. -/
structure Coherent (r : α → α → Bool) : Prop where
  trans : ∀ {a b c}, r a b = true → r b c = true → r a c = true
  not_trans : ∀ {a b c}, r a b = false → r b c = false → r a c = false

/-- Whatever is less than `a` is less than `b`, and `a` is less than whatever `b` is less than. -/
def NoLater (r : α → α → Bool) (a b : α) : Prop :=
  (∀ c, r c a = true → r c b = true) ∧ ∀ c, r b c = true → r a c = true

/-- `Merges r xs ys zs` says that `zs` has the items of `xs` and of `ys` in their order, with an
item of `ys` before one of `xs` exactly if it is less. -/
inductive Merges (r : α → α → Bool) : List α → List α → List α → Prop where
  | nil : Merges r [] [] []
  | first {x xs ys zs} :
      (∀ y ∈ ys, r y x = false) → Merges r xs ys zs → Merges r (x :: xs) ys (x :: zs)
  | second {y xs ys zs} :
      (∀ x ∈ xs, r y x = true) → Merges r xs ys zs → Merges r xs (y :: ys) (y :: zs)

/-- `Arranged r items zs` says that `zs` comes from putting the items one after the other in front
of those that they are less than. -/
inductive Arranged (r : α → α → Bool) : List α → List α → Prop where
  | nil : Arranged r [] []
  | snoc {items before after y} :
      Arranged r items (before ++ after) → (∀ x ∈ before, r y x = false) →
      (∀ x ∈ after, r y x = true) → Arranged r (items ++ [y]) (before ++ y :: after)

/-! ## Coherence -/

/-- The negation of a coherent relation is coherent. -/
theorem Coherent.not (h : Coherent r) : Coherent fun a b => !r a b where
  trans hab hbc := by
    simp only [Bool.not_eq_true'] at hab hbc ⊢
    exact h.not_trans hab hbc
  not_trans hab hbc := by
    simp only [Bool.not_eq_false'] at hab hbc ⊢
    exact h.trans hab hbc

/-- An item that is less than another one stands no later. -/
theorem Coherent.noLater_of_less (h : Coherent r) {a b : α} (hab : r a b = true) :
    NoLater r a b :=
  ⟨fun _ hca => h.trans hca hab, fun _ hbc => h.trans hab hbc⟩

/-- An item that another one is not less than stands no later than it. -/
theorem Coherent.noLater_of_not_less (h : Coherent r) {a b : α} (hba : r b a = false) :
    NoLater r a b := by
  constructor
  · intro c hca
    by_contra hcb
    exact absurd (h.not_trans (Bool.eq_false_iff.2 hcb) hba) (by simp [hca])
  · intro c hbc
    by_contra hac
    exact absurd (h.not_trans hba (Bool.eq_false_iff.2 hac)) (by simp [hbc])

/-- Standing no later means the reverse for the negated relation. -/
theorem noLater_not {a b : α} : NoLater (fun a b => !r a b) a b ↔ NoLater r b a := by
  simp only [NoLater, Bool.not_eq_true']
  constructor <;> rintro ⟨hleft, hright⟩ <;> constructor <;> grind

/-- An item is no later than itself. -/
theorem NoLater.refl (a : α) : NoLater r a a :=
  ⟨fun _ => id, fun _ => id⟩

/-- The first item of an ascending list stands no later than any item of it. -/
theorem noLater_head {xs : List α} {x : α} (h : (x :: xs).Pairwise (NoLater r)) :
    ∀ a ∈ x :: xs, NoLater r x a := by
  intro a ha
  rcases List.mem_cons.1 ha with rfl | ha
  · exact .refl a
  · exact List.rel_of_pairwise_cons h ha

/-- No item of an ascending list stands later than the last one. -/
theorem noLater_getLast {xs : List α} {x : α} (h : xs.Pairwise (NoLater r))
    (hx : x ∈ xs.getLast?) : ∀ a ∈ xs, NoLater r a x := by
  obtain ⟨front, rfl⟩ := List.getLast?_eq_some_iff.1 hx
  intro a ha
  rcases List.mem_append.1 ha with ha | ha
  · exact (List.pairwise_append.1 h).2.2 a ha x (by simp)
  · rw [List.mem_singleton.1 ha]
    exact .refl x

/-- What an item is not less than, nothing behind the item is less than. -/
theorem NoLater.not_less {x y b : α} (h : NoLater r y b) (hyx : r y x = false) : r b x = false :=
  Bool.eq_false_iff.2 fun hbx => by simp [h.2 x hbx] at hyx

/-- What is not less than an item is not less than anything in front of the item. -/
theorem NoLater.not_less_of {x y a : α} (h : NoLater r a x) (hyx : r y x = false) :
    r y a = false :=
  Bool.eq_false_iff.2 fun hya => by simp [h.1 y hya] at hyx

/-! ## Merges -/

namespace Merges

variable {xs xs₁ xs₂ ys ys₁ ys₂ zs zs₁ zs₂ : List α}

/-- Nothing happens to a list that is merged with no other items. -/
theorem nil_right (xs : List α) : Merges r xs [] xs := by
  induction xs with
  | nil => exact .nil
  | cons x xs ih => exact .first (by simp) ih

/-- A list merges with nothing in front of it. -/
theorem nil_left (ys : List α) : Merges r [] ys ys := by
  induction ys with
  | nil => exact .nil
  | cons y ys ih => exact .second (by simp) ih

/-- A merge rearranges the items of the two lists. -/
theorem perm (h : Merges r xs ys zs) : zs.Perm (xs ++ ys) := by
  induction h with
  | nil => exact .nil
  | first _ _ ih => exact ih.cons _
  | second _ _ ih => exact (ih.cons _).trans List.perm_middle.symm

/-- Merging nothing into a list leaves the list. -/
theorem eq_of_nil_right (h : Merges r xs [] zs) : zs = xs := by
  induction xs generalizing zs with
  | nil => exact h.perm.eq_nil
  | cons x xs ih =>
      cases h with
      | first _ h => rw [ih h]

/-- The items of a merged list are those of the two. -/
theorem mem_iff (h : Merges r xs ys zs) {z : α} : z ∈ zs ↔ z ∈ xs ∨ z ∈ ys := by
  rw [h.perm.mem_iff, List.mem_append]

/-- Merges of front parts and of back parts make a merge of the whole, if the items of the front
parts belong in front of those of the back parts. -/
theorem append (h₁ : Merges r xs₁ ys₁ zs₁) (h₂ : Merges r xs₂ ys₂ zs₂)
    (hxy : ∀ x ∈ xs₁, ∀ y ∈ ys₂, r y x = false) (hyx : ∀ y ∈ ys₁, ∀ x ∈ xs₂, r y x = true) :
    Merges r (xs₁ ++ xs₂) (ys₁ ++ ys₂) (zs₁ ++ zs₂) := by
  induction h₁ with
  | nil => exact h₂
  | @first x xs ys zs hx _ ih =>
      refine .first (fun y hy => ?_) (ih (fun a ha => hxy a (by simp [ha])) hyx)
      rcases List.mem_append.1 hy with hy | hy
      · exact hx y hy
      · exact hxy x (by simp) y hy
  | @second y xs ys zs hy _ ih =>
      refine .second (fun x hx => ?_) (ih hxy (fun b hb => hyx b (by simp [hb])))
      rcases List.mem_append.1 hx with hx | hx
      · exact hy x hx
      · exact hyx y (by simp) x hx

/-- A stretch of items of the first list in front of a merge. -/
theorem append_first (h : Merges r xs ys zs) (hfirst : ∀ x ∈ xs₁, ∀ y ∈ ys, r y x = false) :
    Merges r (xs₁ ++ xs) ys (xs₁ ++ zs) := by
  simpa using (nil_right xs₁).append h hfirst (by simp)

/-- A stretch of items of the second list in front of a merge. -/
theorem append_second (h : Merges r xs ys zs) (hsecond : ∀ y ∈ ys₁, ∀ x ∈ xs, r y x = true) :
    Merges r xs (ys₁ ++ ys) (ys₁ ++ zs) := by
  simpa using (nil_left ys₁).append h (by simp) hsecond

/-- A merge behind the first `n` items of the first list. -/
theorem of_drop_first {n : Nat} (h : Merges r (xs.drop n) ys zs)
    (hfirst : ∀ x ∈ xs.take n, ∀ y ∈ ys, r y x = false) : Merges r xs ys (xs.take n ++ zs) := by
  have hwhole := h.append_first hfirst
  rwa [List.take_append_drop] at hwhole

/-- A merge behind the first `n` items of the second list. -/
theorem of_drop_second {n : Nat} (h : Merges r xs (ys.drop n) zs)
    (hsecond : ∀ y ∈ ys.take n, ∀ x ∈ xs, r y x = true) : Merges r xs ys (ys.take n ++ zs) := by
  have hwhole := h.append_second hsecond
  rwa [List.take_append_drop] at hwhole

/-- Items of the first list in front of a merge and items of the second list behind it. -/
theorem append_both (h : Merges r xs ys zs)
    (hfirst : ∀ x ∈ xs₁, ∀ y ∈ ys ++ ys₂, r y x = false)
    (hsecond : ∀ y ∈ ys₂, ∀ x ∈ xs, r y x = false) :
    Merges r (xs₁ ++ xs) (ys ++ ys₂) (xs₁ ++ zs ++ ys₂) := by
  have hbehind : Merges r xs (ys ++ ys₂) (zs ++ ys₂) := by
    simpa using h.append (nil_left ys₂) (fun x hx y hy => hsecond y hy x hx) (by simp)
  rw [List.append_assoc]
  exact hbehind.append_first hfirst

/-- A merge read backwards is one of the reversed lists, by the negated relation. -/
theorem reverse (h : Merges r xs ys zs) :
    Merges (fun y x => !r y x) xs.reverse ys.reverse zs.reverse := by
  induction h with
  | nil => exact .nil
  | @first x xs ys zs hx _ ih =>
      have hlast := ih.append (nil_right [x]) (by simp) (by simpa using hx)
      simpa using hlast
  | @second y xs ys zs hy _ ih =>
      have hlast := ih.append (nil_left [y]) (by simpa using hy) (by simp)
      simpa using hlast

/-- Merging lists in ascending order gives a list in ascending order. -/
theorem pairwise_noLater (h : Merges r xs ys zs) (hr : Coherent r) (hxs : xs.Pairwise (NoLater r))
    (hys : ys.Pairwise (NoLater r)) : zs.Pairwise (NoLater r) := by
  induction h with
  | nil => exact .nil
  | first hx hmerge ih =>
      refine List.pairwise_cons.2 ⟨fun z hz => ?_, ih hxs.of_cons hys⟩
      rcases hmerge.mem_iff.1 hz with hz | hz
      · exact List.rel_of_pairwise_cons hxs hz
      · exact hr.noLater_of_not_less (hx z hz)
  | second hy hmerge ih =>
      refine List.pairwise_cons.2 ⟨fun z hz => ?_, ih hxs hys.of_cons⟩
      rcases hmerge.mem_iff.1 hz with hz | hz
      · exact hr.noLater_of_less (hy z hz)
      · exact List.rel_of_pairwise_cons hys hz

/-- An item of the second list can be taken out of a merge. It stands behind the items of the first
list that it is not less than, and in front of the others. -/
theorem erase_second {before after : List α} {y : α} (h : Merges r xs (before ++ y :: after) zs) :
    ∃ left right, zs = left ++ y :: right ∧ Merges r xs (before ++ after) (left ++ right) ∧
      (∀ z ∈ left, z ∈ before ∨ r y z = false) ∧ (∀ z ∈ right, z ∈ after ∨ r y z = true) := by
  generalize hlist : before ++ y :: after = list at h
  induction h generalizing before with
  | nil => simp at hlist
  | @first x xs ys zs hx _ ih =>
      obtain ⟨left, right, rfl, hmerge, hleft, hright⟩ := ih hlist
      subst hlist
      refine ⟨x :: left, right, rfl, .first (fun b hb => hx b ?_) hmerge, ?_, hright⟩
      · rcases List.mem_append.1 hb with hb | hb <;> simp [hb]
      · intro z hz
        rcases List.mem_cons.1 hz with rfl | hz
        · exact .inr (hx y (by simp))
        · exact hleft z hz
  | @second b xs ys zs hb hmerge ih =>
      cases before with
      | nil =>
          obtain ⟨rfl, rfl⟩ := List.cons.inj hlist
          refine ⟨[], zs, rfl, hmerge, by simp, fun z hz => ?_⟩
          exact (hmerge.mem_iff.1 hz).symm.imp_right (hb z)
      | cons b' before =>
          obtain ⟨rfl, htail⟩ := List.cons.inj hlist
          obtain ⟨left, right, rfl, hrest, hleft, hright⟩ := ih htail
          refine ⟨b' :: left, right, rfl, .second hb hrest, ?_, hright⟩
          intro z hz
          rcases List.mem_cons.1 hz with rfl | hz
          · exact .inl (by simp)
          · exact (hleft z hz).imp_left (by simp +contextual)

end Merges

/-! ## Arrangements -/

/-- A list can be cut in one way only so that `p` fails before the cut and holds after it. -/
theorem append_cut_unique {p : α → Bool} {as as' bs bs' : List α} (h : as ++ bs = as' ++ bs')
    (has : ∀ a ∈ as, p a = false) (hbs : ∀ b ∈ bs, p b = true)
    (has' : ∀ a ∈ as', p a = false) (hbs' : ∀ b ∈ bs', p b = true) : as = as' ∧ bs = bs' := by
  have hnone {t : List α} (hfalse : ∀ a ∈ t, p a = false) (htrue : ∀ a ∈ t, p a = true) :
      t = [] := by
    refine List.eq_nil_iff_forall_not_mem.2 fun a ha => ?_
    simpa [hfalse a ha] using htrue a ha
  rcases List.append_eq_append_iff.1 h with ⟨t, rfl, rfl⟩ | ⟨t, rfl, rfl⟩
  · obtain rfl : t = [] :=
      hnone (fun a ha => has' a (by simp [ha])) (fun a ha => hbs a (by simp [ha]))
    simp
  · obtain rfl : t = [] :=
      hnone (fun a ha => has a (by simp [ha])) (fun a ha => hbs' a (by simp [ha]))
    simp

namespace Arranged

variable {items xs xs' ys ys' zs zs' : List α}

/-- An arrangement is a rearrangement. -/
theorem perm (h : Arranged r items zs) : zs.Perm items := by
  induction h with
  | nil => exact .nil
  | @snoc items before after y _ _ _ ih =>
      have hfront : (before ++ y :: after).Perm (y :: items) := List.perm_middle.trans (ih.cons y)
      exact hfront.trans (List.perm_append_singleton y items).symm

/-- An item that is less than all before it comes first. -/
theorem cons {y : α} (h : Arranged r items zs) (hy : ∀ x ∈ items, r y x = true) :
    Arranged r (items ++ [y]) (y :: zs) := by
  show Arranged r (items ++ [y]) ([] ++ y :: zs)
  exact .snoc h (by simp) (fun x hx => hy x (h.perm.mem_iff.1 hx))

/-- An item that is less than none before it comes last. -/
theorem concat {y : α} (h : Arranged r items zs) (hy : ∀ x ∈ items, r y x = false) :
    Arranged r (items ++ [y]) (zs ++ [y]) := by
  refine .snoc ?_ (fun x hx => hy x (h.perm.mem_iff.1 hx)) (by simp)
  rwa [List.append_nil]

/-- The last item of a list stands in an arrangement as it is compared with the others. -/
theorem exists_of_snoc {y : α} (h : Arranged r (items ++ [y]) zs) :
    ∃ before after, zs = before ++ y :: after ∧ Arranged r items (before ++ after) ∧
      (∀ x ∈ before, r y x = false) ∧ ∀ x ∈ after, r y x = true := by
  generalize hlist : items ++ [y] = list at h
  cases h with
  | nil => simp at hlist
  | @snoc items' before after y' hitems hbefore hafter =>
      obtain ⟨rfl, hy⟩ := List.append_inj' hlist rfl
      obtain rfl := List.singleton_inj.1 hy
      exact ⟨before, after, rfl, hitems, hbefore, hafter⟩

/-- A list has at most one arrangement. -/
theorem unique (h : Arranged r items zs) (h' : Arranged r items zs') : zs = zs' := by
  induction h generalizing zs' with
  | nil => exact h'.perm.eq_nil.symm
  | @snoc items before after y _ hbefore hafter ih =>
      obtain ⟨before', after', rfl, hitems', hbefore', hafter'⟩ := h'.exists_of_snoc
      obtain ⟨rfl, rfl⟩ := append_cut_unique (ih hitems') hbefore hafter hbefore' hafter'
      rfl

/-- The arrangements of two lists, merged, are an arrangement of the lists joined together. -/
theorem append (hxs : Arranged r xs xs') (hys : Arranged r ys ys') (h : Merges r xs' ys' zs) :
    Arranged r (xs ++ ys) zs := by
  induction hys generalizing zs with
  | nil => simpa [h.eq_of_nil_right] using hxs
  | @snoc ys before after y _ hbefore hafter ih =>
      -- `y` is taken out of the merge, which then is one for the shorter list.
      obtain ⟨left, right, rfl, hmerge, hleft, hright⟩ := h.erase_second
      rw [← List.append_assoc]
      refine .snoc (ih hmerge) (fun z hz => ?_) (fun z hz => ?_)
      · exact (hleft z hz).elim (hbefore z) id
      · exact (hright z hz).elim (hafter z) id

/-- An arrangement by a coherent relation is in ascending order. -/
theorem pairwise_noLater (h : Arranged r items zs) (hr : Coherent r) :
    zs.Pairwise (NoLater r) := by
  induction h with
  | nil => exact .nil
  | @snoc items before after y _ hbefore hafter ih =>
      obtain ⟨hbb, haa, hba⟩ := List.pairwise_append.1 ih
      -- Only the pairs with `y` are new.
      refine List.pairwise_append.2 ⟨hbb, List.pairwise_cons.2 ⟨fun x hx => ?_, haa⟩, ?_⟩
      · exact hr.noLater_of_less (hafter x hx)
      · intro x hx z hz
        rcases List.mem_cons.1 hz with rfl | hz
        · exact hr.noLater_of_not_less (hbefore x hx)
        · exact hba x hx z hz

/-- An arrangement read backwards is one of the list turned round, by the converse relation. -/
theorem reverse (h : Arranged r items zs) :
    Arranged (fun a b => r b a) items.reverse zs.reverse := by
  induction h with
  | nil => exact .nil
  | @snoc items before after y _ hbefore hafter ih =>
      -- `y` comes first now, and it stands between the same items.
      have hmerge : Merges (fun a b => r b a) [y] (after.reverse ++ before.reverse)
          (after.reverse ++ y :: before.reverse) :=
        .append_second (.first (by simpa using hbefore) (.nil_left _)) (by simpa using hafter)
      rw [List.reverse_append] at ih
      have hwhole := (Arranged.nil.concat (y := y) (by simp)).append ih hmerge
      simpa using hwhole

/-- Dropping and changing items one by one commutes with arranging, if it leaves the relation of
the items that remain as it is. -/
theorem filterMap {r' : β → β → Bool} {f : α → Option β} (h : Arranged r items zs)
    (hf : ∀ {a b a' b'}, f a = some a' → f b = some b' → r' a' b' = r a b) :
    Arranged r' (items.filterMap f) (zs.filterMap f) := by
  induction h with
  | nil => exact .nil
  | @snoc items before after y _ hbefore hafter ih =>
      rw [List.filterMap_append] at ih ⊢
      rw [List.filterMap_append]
      cases hy : f y with
      | none => simpa [hy] using ih
      | some y' =>
          rw [List.filterMap_cons_some hy, List.filterMap_cons_some hy]
          refine .snoc ih (fun x' hx' => ?_) (fun x' hx' => ?_)
          · obtain ⟨x, hx, hfx⟩ := List.mem_filterMap.1 hx'
            rw [hf hy hfx, hbefore x hx]
          · obtain ⟨x, hx, hfx⟩ := List.mem_filterMap.1 hx'
            rw [hf hy hfx, hafter x hx]

/-- A list of which no item is less than an earlier one is its own arrangement. -/
theorem refl_of_pairwise (h : items.Pairwise fun x y => r y x = false) :
    Arranged r items items := by
  induction items using List.reverseRecOn with
  | nil => exact .nil
  | append_singleton items y ih =>
      obtain ⟨hitems, _, hy⟩ := List.pairwise_append.1 h
      exact (ih hitems).concat fun x hx => hy x hx y (by simp)

/-- A list of which every item is less than all earlier ones is arranged by turning it round. -/
theorem reverse_of_pairwise (h : items.Pairwise fun x y => r y x = true) :
    Arranged r items items.reverse := by
  induction items using List.reverseRecOn with
  | nil => exact .nil
  | append_singleton items y ih =>
      obtain ⟨hitems, _, hy⟩ := List.pairwise_append.1 h
      rw [List.reverse_append]
      exact (ih hitems).cons fun x hx => hy x hx y (by simp)

end Arranged

/-! ## Stable sorting -/

section

variable {le : α → α → Bool} (htrans : ∀ a b c, le a b → le b c → le a c)
  (htotal : ∀ a b, le a b || le b a)

include htrans htotal in
/-- Merging two sorted lists in the usual way, the first list going first where items are even. -/
theorem merges_merge {xs ys : List α} (hxs : xs.Pairwise (le · ·)) (hys : ys.Pairwise (le · ·)) :
    Merges (fun y x => !le x y) xs ys (xs.merge ys le) := by
  induction xs generalizing ys with
  | nil => simpa using Merges.nil_left ys
  | cons x xs ihx =>
      induction ys with
      | nil => simpa using Merges.nil_right (x :: xs)
      | cons y ys ihy =>
          rw [List.cons_merge_cons]
          by_cases hxy : le x y = true
          · rw [if_pos hxy]
            refine .first (fun b hb => ?_) (ihx hxs.of_cons hys)
            rcases List.mem_cons.1 hb with rfl | hb
            · simp [hxy]
            · simp [htrans x y b hxy (List.rel_of_pairwise_cons hys hb)]
          · rw [if_neg hxy]
            refine .second (fun a ha => ?_) (ihy hys.of_cons)
            rcases List.mem_cons.1 ha with rfl | ha
            · simpa using hxy
            · have hyx : le y x = true := by simpa [hxy] using htotal x y
              have hxa : le x a = true := List.rel_of_pairwise_cons hxs ha
              simpa using fun hay => hxy (htrans x a y hxa hay)

include htrans htotal in
/-- The stable sort of a list is its arrangement by the strict order. -/
theorem arranged_mergeSort (items : List α) :
    Arranged (fun y x => !le x y) items (items.mergeSort le) := by
  fun_induction items.mergeSort le with
  | case1 => exact .nil
  | case2 x => exact Arranged.nil.cons (by simp)
  | case3 x y items le halves _ _ ihleft ihright =>
      have hmerge := merges_merge htrans htotal (List.pairwise_mergeSort htrans htotal halves.1.1)
        (List.pairwise_mergeSort htrans htotal halves.2.1)
      have harranged := (ihleft htrans htotal).append (ihright htrans htotal) hmerge
      rwa [List.MergeSort.Internal.splitInTwo_fst_append_splitInTwo_snd] at harranged

end

end StoryLint.Order
