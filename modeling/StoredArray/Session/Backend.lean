import StoredArray.Remote.Server

namespace StoredArray.Session

inductive Backend where
  | memory (memory : Memory)
  | remote (client : Remote.Client) (server : Remote.Server)

namespace Backend

def store : Store Backend where
  serve call
    | memory m =>
      let answer := Memory.store.serve call m
      (answer.1, memory answer.2)
    | remote client server =>
      let answer := (Remote.Server.store client).serve call server
      (answer.1, remote client answer.2)

def contents : Backend → Memory
  | memory m => m
  | remote _ server => server.memory

def received : Backend → List Remote.Command
  | memory _ => []
  | remote _ server => server.received

end Backend

/-- Stores by number. A number that has not been used leads to an empty memory. -/
structure Pool where
  backends : Std.ExtTreeMap Nat Backend

namespace Pool

def backend (pool : Pool) (home : Nat) : Backend :=
  (pool.backends[home]?).getD (.memory .empty)

def put (pool : Pool) (home : Nat) (backend : Backend) : Pool where
  backends := pool.backends.insert home backend

def store (home : Nat) : Store Pool where
  serve call pool :=
    let answer := Backend.store.serve call (pool.backend home)
    (answer.1, pool.put home answer.2)

@[simp, grind =]
theorem backend_put (pool : Pool) (home other : Nat) (backend : Backend) :
    (pool.put home backend).backend other =
      if home = other then backend else pool.backend other := by
  by_cases same : home = other <;> simp [put, Pool.backend, Std.ExtTreeMap.getElem?_insert, same]

end Pool

end StoredArray.Session
