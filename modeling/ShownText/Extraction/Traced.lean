import ShownText.Extraction.Event

namespace ShownText

structure Traced (α : Type) where
  outcome : Except Fault α
  log : List Event

namespace Traced

variable {α β : Type}

def bind (x : Traced α) (f : α → Traced β) : Traced β :=
  match x.outcome with
  | .ok a => ⟨(f a).outcome, x.log ++ (f a).log⟩
  | .error fault => ⟨.error fault, x.log⟩

instance : Monad Traced where
  pure a := ⟨.ok a, []⟩
  bind := bind

def fail (fault : Fault) : Traced α := ⟨.error fault, []⟩

def report (event : Event) : Traced Unit := ⟨.ok (), [event]⟩

def mapFault (f : Fault → Fault) (x : Traced α) : Traced α := ⟨x.outcome.mapError f, x.log⟩

@[simp] theorem log_pure (a : α) : (pure a : Traced α).log = [] := rfl

end Traced

end ShownText
