import Courier.Client
import Courier.Transport.Wire

/-!
# Registry — one client for equal settings

A registry hands out one client for each configuration, and builds it when it is first asked for.
A client that was closed since is replaced. What fails to build changes nothing, and what is
removed is not closed. Clients are known by number, in the order they were built.
-/

namespace Courier

/-- A client as a registry sees it: what it was built from, and whether it is closed. -/
structure Built where
  config : Config
  closed : Bool
  deriving Repr, DecidableEq, Inhabited

/-- A registry, and all clients that were ever built for it. -/
structure Registry where
  /-- The clients that were built, by number. -/
  built : List Built
  /-- The client that is handed out for a configuration. -/
  entries : List (Config × Nat)
  /-- Whether there is an engine for clients to run on. -/
  hasEngine : Bool
  deriving Repr, DecidableEq, Inhabited

namespace Registry

/-- A registry without clients. -/
def new (hasEngine : Bool) : Registry := ⟨[], [], hasEngine⟩

/-- The number of clients that are handed out. -/
def size (r : Registry) : Nat :=
  r.entries.length

/-- Whether a client is closed. -/
def isClosed (r : Registry) (client : Nat) : Bool :=
  match r.built[client]? with
  | some b => b.closed
  | none => false

/-- Whether a client can be built. -/
def check (r : Registry) (config : Config) : Outcome Unit :=
  match config.check r.hasEngine with
  | .error f => .error f
  | .ok () => Wire.check config.wire

/-- Builds a client and hands it out for its configuration from now on. -/
def build (r : Registry) (config : Config) : Outcome (Registry × Nat) :=
  (r.check config).map fun () =>
    let client := r.built.length
    ({ r with
      built := r.built ++ [⟨config, false⟩]
      entries := r.entries.filter (·.1 ≠ config) ++ [(config, client)] }, client)

/-- The client for a configuration, and what is told. -/
def get (r : Registry) (config : Config) : Outcome (Registry × Nat) × List Log :=
  let building := r.build config
  let told := if building.isOk then [config.toldOfBuilding] else []
  match r.entries.lookup config with
  | some client =>
    if r.isClosed client then (building, .replacingClosedClient :: told)
    else (.ok (r, client), [])
  | none => (building, told)

/-- No longer hands a client out. Gives its number. -/
def remove (r : Registry) (config : Config) : Registry × Option Nat :=
  ({ r with entries := r.entries.filter (·.1 ≠ config) }, r.entries.lookup config)

/-- No longer hands any client out. -/
def clear (r : Registry) : Registry :=
  { r with entries := [] }

/-- Closes a client, and tells it if it was open. -/
def close (r : Registry) (client : Nat) : Registry × List Log :=
  if r.isClosed client then (r, [])
  else
    ({ r with built := r.built.modify client fun b => { b with closed := true } },
      [.transportClosed, .clientClosed])

end Registry

end Courier
