import StoredArray.Memory
import StoredArray.Remote.Client

namespace StoredArray.Remote

structure Server where
  memory : Memory
  script : List Reply
  received : List Command

def execute (memory : Memory) : Command → Reply × Memory
  | .get key =>
    match memory.get key with
    | some value => (.bulk value, memory)
    | none => (.absent, memory)
  | .set key data =>
    match memory.set key data with
    | (.ok _, memory) => (.status "OK", memory)
    | (.error error, memory) => (.error ("ERR " ++ error.text), memory)
  | .getRange key first last => (.bulk (memory.getRange key first last), memory)
  | .setRange key offset data =>
    match memory.setRange key offset data with
    | (.ok _, memory) =>
      (.integer (Int64.ofNat ((memory.get key).getD []).length), memory)
    | (.error error, memory) => (.error ("ERR " ++ error.text), memory)
  | .delete key =>
    match memory.remove key with
    | (some _, memory) => (.integer 1, memory)
    | (none, memory) => (.integer 0, memory)

namespace Server

def empty : Server where
  memory := .empty
  script := []
  received := []

/-- Receives a command: the oldest scripted reply answers it, or it is executed. -/
def receive (server : Server) (command : Command) : Reply × Server :=
  match server.script with
  | reply :: script => (reply, { server with script, received := server.received ++ [command] })
  | [] =>
    let answer := execute server.memory command
    (answer.1, { server with memory := answer.2, received := server.received ++ [command] })

def follow (server : Server) : Plan α → Except StoreError α × Server
  | .answer result => (result, server)
  | .send command understand =>
    let answer := server.receive command
    (understand answer.1, answer.2)

def store (client : Client) : Store Server where
  serve call server := server.follow (client.plan call)

def remove (client : Client) (server : Server) (key : String) : Except StoreError Bool × Server :=
  server.follow
    (.send (.delete key) fun reply => (client.asNumber reply).map fun count => 0 < count)

end Server

end StoredArray.Remote
