import StoredArray.Session.Run

namespace StoredArray.Session

variable {handles : Std.ExtTreeMap String Nat} {views : Std.ExtTreeMap String Mounted}

namespace Step

def handle? : Step → Option String
  | openView _ handle _ _ | callStore handle _ | remove handle _ | count handle | isEmpty handle
  | inspect handle | share handle _ => some handle
  | _ => none

def OnView : Step → Prop
  | perform .. | readText .. | writeText .. => True
  | _ => False

def opened (key : String) (step : Step) (answer : Except Failure Answer) : Option Nat :=
  match step, answer with
  | openView _ _ target length, .ok _ =>
    if target = key then some (length.getD View.defaultLength) else none
  | _, _ => none

/-- All that steps can come down to, with what has been found under the names in them. -/
inductive Comes (handles : Std.ExtTreeMap String Nat) (views : Std.ExtTreeMap String Mounted) :
    Step → Move → Prop where
  | unknownHandle {step : Step} {handle : String} (named : step.handle? = some handle)
      (missing : handles[handle]? = none) :
      Comes handles views step (.answer (.error (.unknown handle)))
  | unknownView {step : Step} {name : String} (viewed : step.handle? = none)
      (missing : views[name]? = none) : Comes handles views step (.answer (.error (.unknown name)))
  | unreadable {step : Step} {text : String} {error : Error} (viewed : step.handle? = none)
      (refused : Index.parse text = .error error) :
      Comes handles views step (.answer (.error (.view error)))
  | described {name : String} {mounted : Mounted} (found : views[name]? = some mounted) :
      Comes handles views (describe name) (.answer (.ok (.view mounted.view)))
  | performed {step : Step} {name : String} {mounted : Mounted} {operation : Operation}
      (viewed : step.handle? = none) (found : views[name]? = some mounted) :
      Comes handles views step (.perform mounted operation)
  | opened {name handle key : String} {length : Option Nat} {home : Nat}
      (found : handles[handle]? = some home) :
      Comes handles views (openView name handle key length)
        (.openView name key (length.getD View.defaultLength) home)
  | called {handle : String} {call : Call} {home : Nat} (found : handles[handle]? = some home) :
      Comes handles views (callStore handle call) (.callStore call home)
  | removed {handle key : String} {home : Nat} (found : handles[handle]? = some home) :
      Comes handles views (remove handle key) (.remove key home)
  | counted {handle : String} {home : Nat} (found : handles[handle]? = some home) :
      Comes handles views (count handle)
        (.ask (Backend.tell fun memory => .count memory.size) home)
  | tested {handle : String} {home : Nat} (found : handles[handle]? = some home) :
      Comes handles views (isEmpty handle)
        (.ask (Backend.tell fun memory => .flag memory.isEmpty) home)
  | inspected {handle : String} {home : Nat} (found : handles[handle]? = some home) :
      Comes handles views (inspect handle) (.ask Backend.inspect home)
  | shared {source target : String} {home : Nat} (found : handles[source]? = some home) :
      Comes handles views (share source target) (.share target home)
  | created {target : String} : Comes handles views (create target) (.create target)
  | faulted {fault : Fault} : Comes handles views (addFault fault) (.addFault fault)
  | healed : Comes handles views heal .heal
  | scripted {reply : Remote.Reply} : Comes handles views (script reply) (.script reply)

namespace Comes

variable {step : Step}

theorem ofHandle {handle : String} (named : step.handle? = some handle) {move : Nat → Move}
    (comes : ∀ home, handles[handle]? = some home → step.Comes handles views (move home)) :
    step.Comes handles views (.ofHandle handles handle move) := by
  unfold Move.ofHandle
  split
  · rename_i home found
    exact comes home found
  · rename_i missing
    exact unknownHandle named missing

theorem ofView {name : String} (viewed : step.handle? = none) {move : Mounted → Move}
    (comes : ∀ mounted, views[name]? = some mounted → step.Comes handles views (move mounted)) :
    step.Comes handles views (.ofView views name move) := by
  unfold Move.ofView
  split
  · rename_i mounted found
    exact comes mounted found
  · rename_i missing
    exact unknownView viewed missing

theorem ofText {text : String} (viewed : step.handle? = none) {move : Index → Move}
    (comes : ∀ index, step.Comes handles views (move index)) :
    step.Comes handles views (.ofText text move) := by
  unfold Move.ofText
  split
  · rename_i index _
    exact comes index
  · rename_i refused
    exact unreadable viewed refused

end Comes

theorem comes (handles : Std.ExtTreeMap String Nat) (views : Std.ExtTreeMap String Mounted)
    (step : Step) : step.Comes handles views (step.move handles views) := by
  cases step with
  | openView name handle key length => exact .ofHandle rfl fun _ => .opened
  | describe name => exact .ofView rfl fun _ => .described
  | perform name operation => exact .ofView rfl fun _ => .performed rfl
  | readText name text =>
    exact .ofView rfl fun _ found => .ofText rfl fun _ => .performed rfl found
  | writeText name text values =>
    exact .ofView rfl fun _ found => .ofText rfl fun _ => .performed rfl found
  | callStore handle call => exact .ofHandle rfl fun _ => .called
  | remove handle key => exact .ofHandle rfl fun _ => .removed
  | count handle => exact .ofHandle rfl fun _ => .counted
  | isEmpty handle => exact .ofHandle rfl fun _ => .tested
  | inspect handle => exact .ofHandle rfl fun _ => .inspected
  | share source target => exact .ofHandle rfl fun _ => .shared
  | create target => exact .created
  | addFault fault => exact .faulted
  | heal => exact .healed
  | script reply => exact .scripted

theorem opened_of_handle?_eq_none {step : Step} (viewed : step.handle? = none) (key : String)
    (answer : Except Failure Answer) : step.opened key answer = none := by
  cases step with
  | openView => cases viewed
  | _ => rfl

@[simp]
theorem opened_error (step : Step) (key : String) (failure : Failure) :
    step.opened key (.error failure) = none := by
  cases step <;> rfl

end Step

namespace State

@[simp]
theorem start_backend (backend : Backend) (home : Nat) :
    (State.start backend).pool.backend home = if 0 = home then backend else .memory .empty := by
  have started : (State.start backend).pool = (Pool.mk ∅).put 0 backend := rfl
  rw [started, Pool.backend_put]
  simp [Pool.backend]

@[simp]
theorem start_handles (backend : Backend) (handle : String) :
    (State.start backend).handles[handle]? = if "main" = handle then some 0 else none := by
  simp only [State.start, Std.ExtTreeMap.getElem?_insert, Std.ExtTreeMap.getElem?_empty,
    Std.LawfulEqCmp.compare_eq_iff_eq]

@[simp]
theorem start_views (backend : Backend) (name : String) :
    (State.start backend).views[name]? = none :=
  Std.ExtTreeMap.getElem?_empty

theorem getElem?_run (allocators : Nat → Allocator) (state : State) (steps : List Step) (i : Nat) :
    (state.run allocators steps).1[i]? = steps[i]?.map fun step =>
      let before := (state.run allocators (steps.take i)).2
      State.report before.origin.received.length (before.step (allocators i) step) := by
  induction steps generalizing allocators state i with
  | nil => rfl
  | cons step rest shorter =>
    cases i with
    | zero => rfl
    | succ i => exact shorter _ (state.step (allocators 0) step).state i

end State

end StoredArray.Session
