import InAppMessaging.Store.Runner

/-!
# The store

The store takes commands one at a time in the order they came: actions to run, subscribers to
add or to remove, and barriers, which tell whoever waits that all commands before them are
done.
-/

namespace InAppMessaging

/-- A command to the store; a barrier is an effect on the host. -/
inductive Command (V H : Type) where
  | run (a : Action)
  | subscribe (id : Nat) (watch : Watch V H)
  | unsubscribe (id : Nat)
  | barrier (reached : H → H)

namespace Runner

variable {V H : Type} [ErrorLog H]

/-- Carries out a command. -/
def obey (stages : List (Stage H)) (r : Runner V H) : Command V H → Runner V H
  | .run a => r.handle stages a
  | .subscribe id watch =>
      let (u, host) := Subscriber.register id watch r.session r.host
      { r with subscribers := r.subscribers ++ [u], host }
  | .unsubscribe id => { r with subscribers := r.subscribers.filter fun u => u.id ≠ id }
  | .barrier reached => { r with host := reached r.host }

/-- Carries out commands in their order. -/
def obeyAll (stages : List (Stage H)) (r : Runner V H) (commands : List (Command V H)) :
    Runner V H :=
  commands.foldl (obey stages) r

end Runner

end InAppMessaging
