import SanBridge.Solana.Program

namespace SanBridge.Solana.Endpoint

open Library.Runs Solana.Runtime Solana.State Solana.Instructions Solana.Program

/-- What happens to a store, the endpoint program it names included. -/
inductive Act
  | program (l : Event)
  | endpoint (t : TokenAccounts)

/-- `init_oft`, `send`, `lz_receive` and `set_oft_config` call the endpoint program
before or after they move tokens themselves. They hand it the signature of the
store and whatever accounts the caller names, so it may leave the token accounts
in any state, later too by an approval it has given. -/
inductive Step (space : AddressSpace) : StoreState → Act → StoreState → Prop
  | program {s s' : StoreState} {l : Event} (h : Program.Step space s l s') : Step space s (.program l) s'
  | endpoint {s : StoreState} (t : TokenAccounts) : Step space s (.endpoint t) { s with tokens := t }

/-- The endpoint program takes nothing out of the escrow and leaves it to the store. -/
def SparesEscrow : StoreState × Act → Prop
  | (_, .program _) => True
  | (s, .endpoint t) => s.escrow ≤ t.amount s.store.tokenEscrow ∧
    t.owner s.store.tokenEscrow = s.tokens.owner s.store.tokenEscrow

def EscrowSpared (tr : List (StoreState × Act)) : Prop := ∀ p ∈ tr, SparesEscrow p

/-- An endpoint program that spares the escrow is to it like anybody else. -/
def Act.event : Act → Event
  | .program l => l
  | .endpoint t => .tokens t

def events (tr : List (StoreState × Act)) : List (StoreState × Event) := tr.map (Prod.map id Act.event)

variable {space : AddressSpace} {s s' : StoreState} {a : Act} {tr : List (StoreState × Act)}

theorem Step.spared (hs : SparesEscrow (s, a)) (h : Step space s a s') : Program.Step space s a.event s' := by
  cases h with
  | program h => exact h
  | endpoint t =>
    obtain ⟨hamount, howner⟩ := hs
    exact Program.Step.tokens t hamount howner

theorem run_spared (h : Run (Step space) s tr s') (hspared : EscrowSpared tr) :
    Run (Program.Step space) s (events tr) s' :=
  h.relabel Act.event (fun _ _ _ hs hstep => hstep.spared hs) hspared

theorem reachable_spared (hi : Initial space s) (h : Run (Step space) s tr s') (hspared : EscrowSpared tr) :
    Reachable space s' :=
  ⟨s, hi, _, run_spared h hspared⟩

theorem Step.sameIdentity (h : Step space s a s') : SameIdentity s s' := by
  cases h with
  | program h => exact h.sameIdentity
  | endpoint t => exact ⟨rfl, rfl, rfl, rfl, rfl, rfl, rfl⟩

theorem sameIdentity_run (h : Run (Step space) s tr s') : SameIdentity s s' :=
  h.invariant (I := SameIdentity s) (fun _ _ _ hs hstep => hs.trans hstep.sameIdentity) (SameIdentity.refl s)

end SanBridge.Solana.Endpoint
