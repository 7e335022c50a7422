import TaskDaemon.Rpc.Client
import TaskDaemon.Rpc.Connection

/-!
# Calls over a connection that the daemon serves

* `TaskDaemon.Rpc.Session`: a client and the daemon it is connected to;
* `TaskDaemon.Rpc.Session.call`: a call, from the line that the client writes to what it makes of
  the line it reads.
-/

namespace TaskDaemon

namespace Rpc

/-- **What is read in answer to a line** on a connection that the daemon serves, and the backend
afterwards. The client does not end the stream behind it. -/
def answered (terms : Terms) (backend : Backend) (line : String) : Received × Backend :=
  let (replies, backend) :=
    serveStream { terms with ended := false } none backend (Utf8.ofString line ++ [newline])
  match replies with
  | reply :: _ => (.line (Utf8.ofString (reply.render ++ "\n")), backend)
  | [] => (.ended, backend)

/-- **A client and the daemon it is connected to.** -/
structure Session where
  /-- The client. -/
  client : Client
  /-- What the daemon serves from. -/
  backend : Backend

namespace Session

/-- **A call**, and the session afterwards. -/
def call {α : Type} (terms : Terms) (session : Session) (call : Call α) : Outcome α × Session :=
  match session.client.begin call.method call.params with
  | (.error error, client) => (.error error, { session with client := client })
  | (.ok line, client) =>
    let (received, backend) := answered terms session.backend line
    let (outcome, client) :=
      client.conclude session.client.nextId call.method call.result received
    (outcome, ⟨client, backend⟩)

end Session

end Rpc

end TaskDaemon
