import Extrinsics.Account
import Extrinsics.Record

/-!
# Samples

Calls, errors, events and accounts to try the library with.
-/

namespace Extrinsics.Samples

/-- The address of Alice. -/
def alice : String := "5GrwvaEF5zXb26Fz9rcQpDWS57CtERHpNehXCPcNoHGKutQY"

/-- The address of Bob. -/
def bob : String := "5FHneW46xGXgs5mUiveU4sbTyGBzmstUspZC92UhjJM694ty"

/-- A transfer of a balance to Bob. -/
def transfer : Call where
  method := "transfer"
  pallet := "balances"
  args := .object [("dest", .object [("Id", .text bob)]), ("value", .text "1.0000 PICA")]

/-- A claim of a reward. -/
def claim : Call where
  method := "claim"
  pallet := "crowdloanRewards"
  args := .object []

/-- The error of a transfer of more than the balance. -/
def insufficientBalance : DispatchError := .module ⟨10, #v[2, 0, 0, 0]⟩

/-- The events of a transfer that was run. -/
def transferEvents : List Event :=
  [⟨"balances", "Transfer", .array [.text alice, .text bob, .text "1000000000000"]⟩,
    ⟨"system", "ExtrinsicSuccess", .array [.object [("weight", .whole 195952000)]]⟩]

/-- Two accounts, one of them without a name. -/
def accounts : List ListedAccount := [⟨alice, some "Alice"⟩, ⟨bob, none⟩]

end Extrinsics.Samples
