import Fanout.Buffer.Pool

/-!
# Leases

A pool together with the buffers that it lent, each under a name. A name holds one buffer: a buffer
that is put under a name in use replaces the one there, which goes back to the pool.
-/

namespace Fanout

/-- A pool and the buffers on loan from it. -/
structure Leases where
  pool : Pool
  held : List (String × Buffer)

namespace Leases

def ofPool (pool : Pool) : Leases := ⟨pool, []⟩

def find? (l : Leases) (name : String) : Option Buffer := l.held.lookup name

/-- Removes a name and leaves its buffer on loan. -/
def forget (l : Leases) (name : String) : Leases :=
  { l with held := l.held.filter fun entry => entry.1 ≠ name }

/-- Gives the buffer under a name back to the pool. -/
def recycle (l : Leases) (name : String) : Leases :=
  match l.find? name with
  | none => l
  | some b => { l.forget name with pool := l.pool.recycle b }

def put (l : Leases) (name : String) (b : Buffer) : Leases :=
  let l := l.recycle name
  { l with held := (name, b) :: l.held }

def update (l : Leases) (name : String) (f : Buffer → Buffer) : Leases :=
  { l with held := l.held.map fun entry => if entry.1 = name then (name, f entry.2) else entry }

/-- Asks for a buffer under a name without waiting: whether one was granted. -/
def tryRequest (l : Leases) (name : String) : Except PoolError Bool × Leases :=
  match l.pool.tryRequest with
  | (.ok true, pool) => (.ok true, { l with pool := pool }.put name pool.lent)
  | (r, pool) => (r, { l with pool := pool })

/-- Asks for a buffer under a name and waits if none is free; `meanwhile` is what happens during the
wait. -/
def request (l : Leases) (name : String) (patience : Patience) (now : Duration)
    (meanwhile : Leases → Leases) : Except RequestError Unit × Leases :=
  match l.pool.tryRequest with
  | (.error _, pool) => (.error .destroyed, { l with pool := pool })
  | (.ok true, pool) => (.ok (), { l with pool := pool }.put name pool.lent)
  | (.ok false, pool) =>
    match pool.startWait patience now with
    | (.error e, pool) => (.error e, { l with pool := pool })
    | (.ok (), pool) =>
      let l := meanwhile { l with pool := pool }
      match l.pool.endWait patience with
      | (.error e, pool) => (.error e, { l with pool := pool })
      | (.ok (), pool) => (.ok (), { l with pool := pool }.put name pool.lent)

/-- Tears the pool down; the buffers stay on loan. -/
def destroy (l : Leases) : Leases := { l with pool := l.pool.destroy }

end Leases

end Fanout
