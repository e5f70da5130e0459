/-!
# Computations that follow a list

Where results are only put together, what a computation does besides is done by a few steps in the
middle of it, one after the other. Such a computation follows a list: without its result it is the
same as the steps for the things in the list. This holds in any monad.

* `voidly` -- a computation without its result;
* `Following` -- what following a list is, with a lemma for each way to put computations together.
-/

namespace SqlSelect

variable {m : Type → Type} [Monad m] {α β ι : Type}

/-- A computation without its result. -/
def voidly (x : m α) : m Unit := (fun _ => ()) <$> x

/-- But for its result, a computation is the same as the steps for some things, one after the
other. -/
def Following (step : ι → m Unit) (x : m α) (items : List ι) : Prop := voidly x = forM items step

variable [LawfulMonad m]

@[simp] theorem voidly_pure (a : α) : voidly (pure a : m α) = pure () := map_pure _ a

theorem voidly_bind (x : m α) (f : α → m β) :
    voidly (x >>= f) = x >>= fun a => voidly (f a) := map_bind _ x f

@[simp] theorem voidly_unit (x : m Unit) : voidly x = x := id_map x

/-- What goes on after a computation whose result is not used. -/
theorem bind_const (x : m α) (y : m β) : (x >>= fun _ => y) = voidly x >>= fun _ => y := by
  rw [voidly, bind_map_left]

/-- A last step that only puts results together. -/
theorem voidly_bind_pure (x : m α) (f : α → β) : voidly (x >>= fun a => pure (f a)) = voidly x := by
  rw [bind_pure_comp, voidly, voidly, Functor.map_map]

namespace Following

variable {step : ι → m Unit}

theorem ofPure (a : α) : Following step (pure a) [] := voidly_pure a

theorem ofStep {x : m α} {i : ι} (h : voidly x = step i) : Following step x [i] := by
  unfold Following
  rw [h]
  exact (bind_pure _).symm

theorem bind {x : m α} {f : α → m β} {items more : List ι} (hx : Following step x items)
    (hf : ∀ a, Following step (f a) more) : Following step (x >>= f) (items ++ more) := by
  have hx' : voidly x = forM items step := hx
  have hf' : ∀ a, voidly (f a) = forM more step := hf
  calc voidly (x >>= f)
      = x >>= fun _ => forM more step := by simp only [voidly_bind, hf']
    _ = voidly x >>= fun _ => forM more step := bind_const x _
    _ = forM (items ++ more) step := by rw [hx', List.forM_append]

theorem thenPure {x : m α} {items : List ι} (hx : Following step x items) (f : α → β) :
    Following step (x >>= fun a => pure (f a)) items :=
  (voidly_bind_pure x f).trans hx

theorem mapM {f : α → m β} {items : α → List ι} (hf : ∀ a, Following step (f a) (items a))
    (as : List α) : Following step (as.mapM f) (as.flatMap items) := by
  induction as with
  | nil => exact ofPure []
  | cons a as ih =>
    rw [List.mapM_cons, List.flatMap_cons]
    exact (hf a).bind fun _ => ih.thenPure _

end Following

end SqlSelect
