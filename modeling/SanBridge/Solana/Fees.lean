import SanBridge.Solana.Custody

namespace SanBridge.Solana.Fees

open Library.Checked Library.Runs
open Solana.Runtime Solana.State Solana.Amounts Solana.Instructions Solana.Effects Solana.Program Solana.Custody
open Solana.Endpoint (Act EscrowSpared events run_spared)

def oftFee (s : StoreState) (params : SendParams) : Nat :=
  match s.peers params.dstEid with
  | some peer =>
    match computeFeeAndAdjustAmount params.amountLd s.store s.mint s.clock.epoch peer.feeBps with
    | .ok (_, _, oftFeeLd) => oftFeeLd
    | .error _ => 0
  | none => 0

variable {space : AddressSpace} {oapp : Oapp} {s s' : StoreState} {l : Event}

section Traffic

variable {sendAccounts : SendAccounts} {sendParams : SendParams} {result : SendResult}
variable {accounts : LzReceiveAccounts} {params : LzReceiveParams} {event : OFTReceived}

end Traffic

section Withdraw

variable {accounts : WithdrawFeeAccounts} {feeLd : U64}

end Withdraw

end SanBridge.Solana.Fees
