import StoredArray.Proofs.Memory.Ranges
import StoredArray.Remote.Server

namespace StoredArray

def StoreError.blank (_ : StoreError) : StoreError where
  text := ""
  causes := []

def Call.Addressable : Call → Prop
  | .get _ => True
  | .set _ _ => True
  | .getRange _ first last => first < 0x8000000000000000 ∧ last < 0x8000000000000000
  | .setRange _ offset _ => offset < 0x8000000000000000

namespace Remote.Server

theorem follow_send {α : Type} (server : Server) (silent : server.script = []) (command : Command)
    (understand : Reply → Except StoreError α) :
    server.follow (.send command understand) =
      (understand (execute server.memory command).1,
        { server with
          memory := (execute server.memory command).2
          received := server.received ++ [command] }) := by
  rw [follow, receive, silent]

variable (client : Client) (server : Server)

theorem serve_getRange (silent : server.script = []) (key : String) (first last : Nat) :
    (store client).serve (.getRange key first last) server =
      if last < first then (.ok [], server)
      else if last < 0x8000000000000000 then
        (.ok (server.memory.getRange key first last),
          { server with received := server.received ++ [.getRange key first last] })
      else (.error positionTooLarge, server) := by
  simp only [store, Client.plan]
  split
  · rfl
  · split
    · simp only [follow_send server silent, execute, client.asBytes_bulk]
    · rfl

theorem serve_setRange_past (key : String) {offset : Nat} (data : Bytes)
    (past : 0x8000000000000000 ≤ offset) :
    (store client).serve (.setRange key offset data) server =
      (.error positionTooLarge, server) := by
  simp only [store, Client.plan, if_neg (Nat.not_lt.mpr past), follow]

theorem serve_setRange (silent : server.script = []) (key : String) {offset : Nat} (data : Bytes)
    (inside : offset < 0x8000000000000000) :
    let served := (store client).serve (.setRange key offset data) server
    served.1.mapError StoreError.blank =
        (server.memory.setRange key offset data).1.mapError StoreError.blank ∧
      served.2 = { server with
        memory := (server.memory.setRange key offset data).2
        received := server.received ++ [.setRange key offset data] } := by
  intro served
  have planned : served = server.follow (.send _ _) :=
    congrArg server.follow (if_pos inside)
  rw [planned, follow_send server silent]
  simp only [execute]
  obtain ⟨result, after⟩ := server.memory.setRange key offset data
  cases result with
  | ok _ =>
    rw [client.asNumber_integer]
    exact ⟨rfl, rfl⟩
  | error error =>
    obtain ⟨cause, understood⟩ := client.asNumber_error ("ERR " ++ error.text)
    rw [understood]
    exact ⟨rfl, rfl⟩

/-- Behind a server without a script a client does what it would do on the memory itself. -/
theorem serve_unscripted (silent : server.script = []) (call : Call)
    (addressable : call.Addressable) :
    let served := (store client).serve call server
    served.1.mapError StoreError.blank =
        (Memory.store.serve call server.memory).1.mapError StoreError.blank ∧
      served.2.memory = (Memory.store.serve call server.memory).2 ∧ served.2.script = [] := by
  intro served
  cases call with
  | get key =>
    have sent : served = _ := follow_send server silent (.get key) client.asValue
    rw [sent]
    simp only [execute, Memory.store]
    cases server.memory.get key with
    | none =>
      rw [client.asValue_absent]
      exact ⟨rfl, rfl, silent⟩
    | some value =>
      rw [client.asValue_bulk]
      exact ⟨rfl, rfl, silent⟩
  | set key data =>
    have sent : served = _ := follow_send server silent (.set key data) client.asDone
    rw [sent]
    simp only [execute, Memory.store]
    obtain ⟨result, after⟩ := server.memory.set key data
    cases result with
    | ok _ =>
      rw [client.asDone_status]
      exact ⟨rfl, rfl, silent⟩
    | error error =>
      obtain ⟨cause, understood⟩ := client.asDone_error ("ERR " ++ error.text)
      rw [understood]
      exact ⟨rfl, rfl, silent⟩
  | getRange key first last =>
    obtain ⟨-, inside⟩ := addressable
    have sent : served = _ := serve_getRange client server silent key first last
    rw [sent]
    simp only [Memory.store]
    by_cases inverted : last < first
    · rw [if_pos inverted, Memory.getRange_inverted server.memory key first last inverted]
      exact ⟨rfl, rfl, silent⟩
    · rw [if_neg inverted, if_pos inside]
      exact ⟨rfl, rfl, silent⟩
  | setRange key offset data =>
    obtain ⟨answer, after⟩ := serve_setRange client server silent key data addressable
    refine ⟨answer, ?_, ?_⟩
    · rw [after]
      rfl
    · rw [after]
      exact silent

end Remote.Server

end StoredArray
