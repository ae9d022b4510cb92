import Mathlib.Data.List.Basic
import StoryLint.Order.Merge
import StoryLint.Proofs.Order.Search

/-!
# Merges of runs

`mergeRunsM_merges`: two runs in ascending order are merged as the comparison answers, whichever
end the merge starts at, wherever it gallops, and however often a run has to win for that.

A merge from the back takes the items of the reversed runs, by the negated relation.
`mergeFromM_merges` covers both ends at once: what the loop does at an end depends on the relation
only through `End.turn`, and the one item that an end leaves uncompared is `End.Bounded`.
-/

namespace StoryLint.Order

variable {α : Type} {less q : α → α → Bool} {xs xs' ys ys' zs : List α} {side : End}

namespace End

/-- An answer of a comparison, as it counts at an end. -/
def turn (side : End) (answer : Bool) : Bool :=
  match side with
  | front => answer
  | back => !answer

/-- The relation by which items are taken from an end. -/
def orient (side : End) (less : α → α → Bool) (y x : α) : Bool :=
  side.turn (less y x)

/-- The last item on the side that an end does not compare is where it belongs. -/
def Bounded (side : End) (q : α → α → Bool) (xs ys : List α) : Prop :=
  match side with
  | front => ∀ x ∈ xs.getLast?, ∀ y ∈ ys, q y x = true
  | back => ∀ y ∈ ys.getLast?, ∀ x ∈ xs, q y x = false

/-- The opposite answer counts as the opposite at both ends. -/
@[simp]
theorem turn_not (side : End) (answer : Bool) : side.turn (!answer) = !side.turn answer := by
  cases side <;> rfl

/-- The last item of an end of a list is the last item of the list. -/
theorem getLast?_of_suffix {x : α} (h : xs' <:+ xs) (hx : x ∈ xs'.getLast?) : x ∈ xs.getLast? := by
  obtain ⟨front, rfl⟩ := h
  simp only [Option.mem_def] at hx ⊢
  simp [List.getLast?_append, hx]

/-- Taking items from the front of the lists leaves their last items where they are. -/
theorem Bounded.of_suffix (h : side.Bounded q xs ys) (hxs : xs' <:+ xs) (hys : ys' <:+ ys) :
    side.Bounded q xs' ys' := by
  cases side with
  | front => exact fun x hx y hy => h x (getLast?_of_suffix hxs hx) y (hys.subset hy)
  | back => exact fun y hy x hx => h y (getLast?_of_suffix hys hy) x (hxs.subset hx)

/-- A merge with an empty list is over. -/
theorem rest_merges_of_nil (h : xs = [] ∨ ys = []) : Merges q xs ys (side.rest xs ys) := by
  rcases h with rfl | rfl
  · cases side <;> simpa [rest] using Merges.nil_left ys
  · cases side <;> simpa [rest] using Merges.nil_right xs

/-- When a merge is over, what is left of the lists is merged already. -/
theorem rest_merges (hover : side.isOver xs ys = true) (h : side.Bounded q xs ys) :
    Merges q xs ys (side.rest xs ys) := by
  cases side with
  | front =>
      -- All of the second list goes in front of the last item of the first.
      match xs, ys with
      | [], _ | _, [] => exact rest_merges_of_nil (by simp)
      | [x], y :: ys =>
          have hlast : ∀ b ∈ y :: ys, ∀ a ∈ [x], q b a = true := by
            intro b hb a ha
            rw [List.mem_singleton.1 ha]
            exact h x rfl b hb
          simpa [rest] using
            (Merges.nil_left (y :: ys)).append (Merges.nil_right [x]) (by simp) hlast
      | _ :: _ :: _, _ :: _ => simp [isOver] at hover
  | back =>
      -- All of the first list goes in front of the last item of the second.
      match xs, ys with
      | [], _ | _, [] => exact rest_merges_of_nil (by simp)
      | x :: xs, [y] =>
          have hlast : ∀ a ∈ x :: xs, ∀ b ∈ [y], q b a = false := by
            intro a ha b hb
            rw [List.mem_singleton.1 hb]
            exact h y rfl a ha
          simpa [rest] using
            (Merges.nil_right (x :: xs)).append (Merges.nil_left [y]) hlast (by simp)
      | _ :: _, _ :: _ :: _ => simp [isOver] at hover

variable {m : Type → Type} [Monad m] [LawfulMonad m]

/-- Which run the next item is from, by the order of comparing at that end. -/
theorem secondFirstM_eq (side : End) (x y : α) :
    side.secondFirstM (fun a b => pure (less a b)) x y =
      (pure (side.orient less y x) : m Bool) := by
  cases side <;> simp [secondFirstM, orient, turn]

/-- The stretch that is taken at an end reaches up to the cut. -/
theorem stretchM_eq {p : α → Bool}
    (h : xs.Pairwise fun a b => side.turn (p b) = true → side.turn (p a) = true) :
    ∃ n, side.stretchM (fun x => pure (p x)) xs = (pure n : m Nat) ∧
      IsCut (fun x => side.turn (p x)) xs n := by
  cases side with
  | front =>
      obtain ⟨n, hn⟩ := exists_isCut h
      exact ⟨n, gallopM_eq hn (by simp), hn⟩
  | back =>
      have hreverse : xs.reverse.Pairwise fun a b => p b = true → p a = true := by
        refine List.pairwise_reverse.2 (h.imp fun hab => ?_)
        simpa [turn] using mt hab
      obtain ⟨n, hn⟩ := exists_isCut hreverse
      refine ⟨xs.length - n, ?_, hn.of_reverse⟩
      simp [stretchM, gallopM_eq hn]

/-- The stretch of the first list in front of an item of the second list. -/
theorem stretchM_first (h : xs.Pairwise (NoLater (side.orient less))) (y : α) :
    ∃ n, side.stretchM (fun x => do return !(← pure (less y x))) xs = (pure n : m Nat) ∧
      IsCut (fun x => !side.orient less y x) xs n := by
  have hturn : xs.Pairwise fun a b =>
      side.turn (!less y b) = true → side.turn (!less y a) = true :=
    h.imp fun hab => by simpa [orient] using mt (hab.1 y)
  simp only [pure_bind]
  simpa only [turn_not, orient] using stretchM_eq (p := fun x => !less y x) hturn

/-- The stretch of the second list in front of an item of the first list. -/
theorem stretchM_second (h : ys.Pairwise (NoLater (side.orient less))) (x : α) :
    ∃ n, side.stretchM (fun y => pure (less y x)) ys = (pure n : m Nat) ∧
      IsCut (fun y => side.orient less y x) ys n :=
  stretchM_eq (h.imp fun hab => hab.2 x)

end End

variable {m : Type → Type} [Monad m] [LawfulMonad m]

/-- Merging from an end, at any pace, merges the lists by the relation of the end. -/
theorem mergeFromM_merges (less : α → α → Bool) (side : End) (pace : Pace) (least : Nat)
    (hxs : xs.Pairwise (NoLater (side.orient less)))
    (hys : ys.Pairwise (NoLater (side.orient less)))
    (hbound : side.Bounded (side.orient less) xs ys) :
    ∃ zs least', mergeFromM (fun a b => pure (less a b)) side pace least xs ys =
        (pure (zs, least') : m (List α × Nat)) ∧
      Merges (side.orient less) xs ys zs := by
  -- The cases of the loop: over, one item at a time, a stretch of either list, a list used up.
  induction pace, least, xs, ys using mergeFromM.induct side with
  | case1 pace least x xs y ys hover =>
      refine ⟨_, least, ?_, End.rest_merges hover hbound⟩
      cases pace <;> rw [mergeFromM, if_pos hover]
  | case2 least x xs y ys hgoing won₁ won₂ ihsecond ihfirst =>
      rw [mergeFromM, if_neg hgoing, End.secondFirstM_eq, pure_bind]
      split
      next hyx =>
        obtain ⟨zs, least', hrun, hmerge⟩ := ihsecond hxs hys.of_cons
          (hbound.of_suffix List.suffix_rfl (List.suffix_cons y ys))
        rw [hrun, pure_bind]
        exact ⟨_, _, rfl, .second (fun a ha => (noLater_head hxs a ha).1 y hyx) hmerge⟩
      next hyx =>
        obtain ⟨zs, least', hrun, hmerge⟩ := ihfirst hxs.of_cons hys
          (hbound.of_suffix (List.suffix_cons x xs) List.suffix_rfl)
        rw [hrun, pure_bind]
        exact ⟨_, _, rfl,
          .first (fun b hb => (noLater_head hys b hb).not_less (Bool.eq_false_iff.2 hyx)) hmerge⟩
  | case3 least x xs y ys hgoing ih =>
      obtain ⟨count, hcount, hcut⟩ := End.stretchM_first (m := m) hxs y
      have hfirst : ∀ a ∈ (x :: xs).take count, ∀ b ∈ y :: ys, side.orient less b a = false :=
        fun a ha b hb => (noLater_head hys b hb).not_less (by simpa using hcut.take a ha)
      have hbehind : side.Bounded (side.orient less) ((x :: xs).drop count) (y :: ys) :=
        hbound.of_suffix (List.drop_suffix _ _) List.suffix_rfl
      rw [mergeFromM, if_neg hgoing, hcount, pure_bind]
      dsimp only
      split
      next hover => exact ⟨_, _, rfl, (End.rest_merges hover hbehind).of_drop_first hfirst⟩
      next =>
        obtain ⟨zs, least', hrun, hmerge⟩ := ih count (hxs.drop) hys.of_cons
          (hbehind.of_suffix List.suffix_rfl (List.suffix_cons y ys))
        rw [hrun, pure_bind]
        have hsecond : ∀ a ∈ (x :: xs).drop count, side.orient less y a = true :=
          fun a ha => by simpa using hcut.drop a ha
        exact ⟨_, _, rfl, (Merges.second hsecond hmerge).of_drop_first hfirst⟩
  | case4 least x xs y ys hgoing stretch₁ ih =>
      obtain ⟨count, hcount, hcut⟩ := End.stretchM_second (m := m) hys x
      have hsecond : ∀ b ∈ (y :: ys).take count, ∀ a ∈ x :: xs, side.orient less b a = true :=
        fun b hb a ha => (noLater_head hxs a ha).1 b (hcut.take b hb)
      have hfirst : ∀ b ∈ (y :: ys).drop count, side.orient less b x = false := hcut.drop
      have hbehind : side.Bounded (side.orient less) (x :: xs) ((y :: ys).drop count) :=
        hbound.of_suffix List.suffix_rfl (List.drop_suffix _ _)
      have hafter : side.Bounded (side.orient less) xs ((y :: ys).drop count) :=
        hbehind.of_suffix (List.suffix_cons x xs) List.suffix_rfl
      -- Whatever is merged behind the stretch and `x`, the whole is merged with them.
      have hwhole {zs : List α} (hmerge : Merges (side.orient less) xs ((y :: ys).drop count) zs) :
          Merges (side.orient less) (x :: xs) (y :: ys) ((y :: ys).take count ++ x :: zs) :=
        (Merges.first hfirst hmerge).of_drop_second hsecond
      rw [mergeFromM, if_neg hgoing, hcount, pure_bind]
      dsimp only
      split
      next hover => exact ⟨_, _, rfl, (End.rest_merges hover hbehind).of_drop_second hsecond⟩
      next =>
        split
        next hover => exact ⟨_, _, rfl, hwhole (End.rest_merges hover hafter)⟩
        next =>
          obtain ⟨zs, least', hrun, hmerge⟩ := ih count _ _ hxs.of_cons (hys.drop) hafter
          rw [hrun, pure_bind]
          exact ⟨_, _, rfl, hwhole hmerge⟩
  | case5 pace least xs ys hnil =>
      rw [mergeFromM.eq_4 _ _ _ _ _ _ hnil]
      refine ⟨_, least, rfl, End.rest_merges_of_nil ?_⟩
      cases xs with
      | nil => exact .inl rfl
      | cons x xs =>
          cases ys with
          | nil => exact .inr rfl
          | cons y ys => exact (hnil x xs y ys rfl rfl).elim

/-- Reversing an ascending list makes it ascending for the back. -/
theorem pairwise_noLater_back (h : xs.Pairwise (NoLater less)) :
    xs.reverse.Pairwise (NoLater (End.back.orient less)) :=
  List.pairwise_reverse.2 (h.imp fun hab => noLater_not.2 hab)

/-- Two runs are merged from either end, if the first item of the second run is in front of the
first run and the last item of the first run behind the second run. -/
theorem mergeEndM_merges (side : End) (least : Nat) (hxs : xs.Pairwise (NoLater less))
    (hys : ys.Pairwise (NoLater less)) (hstart : ∀ y ∈ ys.head?, ∀ x ∈ xs, less y x = true)
    (hstop : ∀ x ∈ xs.getLast?, ∀ y ∈ ys, less y x = true) :
    ∃ zs least', mergeEndM (fun a b => pure (less a b)) side least xs ys =
        (pure (zs, least') : m (List α × Nat)) ∧ Merges less xs ys zs := by
  cases side with
  | front =>
      cases ys with
      | nil => exact ⟨xs, least, rfl, .nil_right xs⟩
      | cons y ys =>
          have hbound : End.front.Bounded less xs ys :=
            fun x hx b hb => hstop x hx b (List.mem_cons_of_mem y hb)
          obtain ⟨zs, least', hrun, hmerge⟩ :=
            mergeFromM_merges (m := m) less .front (.single 0 0) least hxs hys.of_cons hbound
          refine ⟨y :: zs, least', ?_, .second (hstart y rfl) hmerge⟩
          simp [mergeEndM, hrun]
  | back =>
      obtain rfl | ⟨front, x, rfl⟩ := xs.eq_nil_or_concat'
      · exact ⟨ys, least, rfl, .nil_left ys⟩
      · have hbound : End.back.Bounded (End.back.orient less) front.reverse ys.reverse := by
          intro y hy a ha
          rw [List.getLast?_reverse] at hy
          have hmem : a ∈ front ++ [x] := List.mem_append_left _ (List.mem_reverse.1 ha)
          simp [End.orient, End.turn, hstart y hy a hmem]
        obtain ⟨zs, least', hrun, hmerge⟩ := mergeFromM_merges (m := m) less .back (.single 0 0)
          least (pairwise_noLater_back (List.pairwise_append.1 hxs).1)
          (pairwise_noLater_back hys) hbound
        have hfront : Merges less front ys zs.reverse := by
          simpa [End.orient, End.turn] using hmerge.reverse
        have hlast : ∀ y ∈ ys, ∀ a ∈ [x], less y a = true := by
          intro y hy a ha
          rw [List.mem_singleton.1 ha]
          exact hstop x (by simp) y hy
        refine ⟨zs.reverse ++ [x], least', ?_, ?_⟩
        · simp [mergeEndM, hrun]
        · simpa using hfront.append (.nil_right [x]) (by simp) hlast

/-- Runs that follow each other are merged as the comparison answers. -/
theorem mergeRunsM_merges (least : Nat) (hxs : xs.Pairwise (NoLater less))
    (hys : ys.Pairwise (NoLater less)) :
    ∃ zs least', mergeRunsM (fun a b => pure (less a b)) least xs ys =
        (pure (zs, least') : m (List α × Nat)) ∧ Merges less xs ys zs := by
  cases ys with
  | nil => exact ⟨xs, least, rfl, .nil_right xs⟩
  | cons y ys =>
      obtain ⟨start, hcut⟩ := exists_isCut_first hxs y
      have hgallop := gallopM_eq (m := m) hcut (Nat.zero_le _)
      have hkept : ∀ a ∈ xs.take start, ∀ b ∈ y :: ys, less b a = false :=
        fun a ha b hb => (noLater_head hys b hb).not_less (by simpa using hcut.take a ha)
      simp only [mergeRunsM, pure_bind, hgallop]
      cases hlast : (xs.drop start).getLast? with
      | none =>
          have hall : xs.take start = xs :=
            List.take_of_length_le (List.drop_eq_nil_iff.1 (List.getLast?_eq_none_iff.1 hlast))
          rw [hall] at hkept
          refine ⟨_, _, rfl, ?_⟩
          simpa using (Merges.nil_left (y :: ys)).append_first hkept
      | some x =>
          obtain ⟨stop, hcut'⟩ := exists_isCut_second hys x
          have hgallop' := gallopM_eq (m := m) hcut' (Nat.le_refl _)
          have hbehind : ∀ b ∈ (y :: ys).drop stop, ∀ a ∈ xs.drop start, less b a = false :=
            fun b hb a ha => (noLater_getLast hxs.drop hlast a ha).not_less_of (hcut'.drop b hb)
          have hstart :
              ∀ b ∈ ((y :: ys).take stop).head?, ∀ a ∈ xs.drop start, less b a = true := by
            intro b hb a ha
            obtain rfl : b = y := by
              cases stop <;> simp_all
            simpa using hcut.drop a ha
          simp only [hgallop', pure_bind]
          obtain ⟨zs, least', hrun, hmerge⟩ := mergeEndM_merges (m := m)
            (if xs.length - start ≤ stop then .front else .back) least hxs.drop hys.take hstart
            (fun a ha b hb => by
              obtain rfl : a = x := Option.some.inj (ha.symm.trans hlast)
              exact hcut'.take b hb)
          rw [hrun, pure_bind]
          refine ⟨_, _, rfl, ?_⟩
          rw [← List.take_append_drop stop (y :: ys)] at hkept
          have hwhole := hmerge.append_both hkept hbehind
          rwa [List.take_append_drop, List.take_append_drop] at hwhole

end StoryLint.Order
