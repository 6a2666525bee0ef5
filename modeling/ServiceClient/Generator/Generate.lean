import ServiceClient.Code.Layout
import ServiceClient.Generator.Emit
import ServiceClient.Generator.Resolve
import ServiceClient.Generator.Validation

/-! From a service to the text of its client module. Nothing is generated for a service that fails a
check. -/

namespace ServiceClient.Generator
open ServiceClient.Schema

def notice : String :=
  "// This code was automatically generated by shapegen-gen. Do not edit manually.\n\n"

/-- The plan of a service that passes validation. -/
def planService (service : Service) (config : Config) : Except Error Codec.Module := do
  let ctx ← Context.new service config
  ctx.validate
  ctx.plan

theorem eq_ok_of_toOption {ε α : Type} {r : Except ε α} {a : α} (h : r.toOption = some a) :
    r = .ok a := by
  cases r with
  | error e => simp [Except.toOption] at h
  | ok b => simpa [Except.toOption] using h

def generate (service : Service) (config : Config) : Except Error String := do
  let plan ← planService service config
  .ok (notice ++ Code.layout (Emit.items plan))

end ServiceClient.Generator
