import StoredArray.Remote.Client
import StoredArray.View.Basic

namespace StoredArray.Session

inductive Step where
  /-- Opens a view on the store behind a handle; without a length it has the default length. -/
  | openView (view handle key : String) (length : Option Nat)
  | describe (view : String)
  | perform (view : String) (operation : Operation)
  | readText (view text : String)
  | writeText (view text : String) (values : Bytes)
  /-- Calls a store without a view; fault rules do not concern such calls. -/
  | callStore (handle : String) (call : Call)
  | remove (handle key : String)
  | count (handle : String)
  | isEmpty (handle : String)
  | inspect (handle : String)
  | share (source target : String)
  | create (target : String)
  | addFault (fault : Fault)
  | heal
  | script (reply : Remote.Reply)

inductive Answer where
  | nothing
  | opened (length : Nat)
  | view (view : View)
  | value (value : Value)
  | stored (value : Option Bytes)
  | flag (flag : Bool)
  | count (count : Nat)
  | text (text : String)
  deriving DecidableEq

inductive Failure where
  | view (error : Error)
  | store (error : StoreError)
  | removal (key : String) (cause : StoreError)
  | unknown (name : String)
  | unsupported
  deriving DecidableEq

namespace Failure

def message : Failure → String
  | view error => error.message
  | store error => error.text
  | removal key _ => "Could not delete " ++ key ++ "."
  | unknown name => "There is nothing named " ++ name ++ "."
  | unsupported => "The store does not take this step."

def causes : Failure → List String
  | view error => error.causes
  | store error => error.causes
  | removal _ cause => cause.text :: cause.causes
  | unknown _ => []
  | unsupported => []

end Failure

def Answer.ofReply : (call : Call) → call.Reply → Answer
  | .get _, found => .stored found
  | .set _ _, _ => .nothing
  | .getRange _ _ _, found => .value (.bytes found)
  | .setRange _ _ _, _ => .nothing

end StoredArray.Session
