/-!
# Programs on a state

What a program that is put together of two does with a state, and with a failure of the first one.
-/

namespace TextRepair

variable {σ ε α β : Type} {s s' : σ}

theorem bind_apply (m : StateM σ α) (f : α → StateM σ β) (s : σ) : (m >>= f) s = f (m s).1 (m s).2 := rfl

theorem get_bind_apply (f : σ → StateM σ β) (s : σ) : (get >>= f) s = f s s := rfl

theorem run_get_bind (f : σ → ExceptT ε (StateM σ) β) (s : σ) : (get >>= f).run s = (f s).run s := rfl

theorem run_bind_ok {m : ExceptT ε (StateM σ) α} {f : α → ExceptT ε (StateM σ) β} {a : α}
    (hm : m.run s = (.ok a, s')) : (m >>= f).run s = (f a).run s' := by
  show (ExceptT.bindCont f (m.run s).1) (m.run s).2 = _
  rw [hm]
  rfl

theorem run_bind_error {m : ExceptT ε (StateM σ) α} {f : α → ExceptT ε (StateM σ) β} {e : ε}
    (hm : m.run s = (.error e, s')) : (m >>= f).run s = (.error e, s') := by
  show (ExceptT.bindCont f (m.run s).1) (m.run s).2 = _
  rw [hm]
  rfl

end TextRepair
