import HintLine.Client.Launch
import HintLine.Session.Basic

/-!
The clients of a session: they are started, registered, and stopped one after the other.
-/

set_option autoImplicit false

namespace HintLine.Session

open HintLine.Client (Connection Server)

def register (client : Ident) (c : Connection) : Act Session Unit :=
  onRegistry (Act.modify (·.register client c))

def unregister (client : Ident) : Act Session Unit := onRegistry (Act.modify (·.unregister client))

/-- Starts a server in a directory from a command line, greets it, and registers its client. -/
def start (client : Ident) (server : Server) (command : String) (root : Path) : Act Session Unit := do
  onFiles (Client.launch server command root)
  Act.emit (.call (.handshake (root.absolute (← Act.get).files.cwd).uri true))
  Act.ofExcept server.handshake
  Act.emit (.call .ready)
  register client server.connection
  Act.log .info s!"Language client {client.text} started: {command}"

/-- Stops a client. If its server fails to shut down the client stays. -/
def stopClient (client : Ident) (c : Connection) : Act Session Unit := do
  Act.log .trace s!"Stop language client {client.text}"
  Act.emit (.call (.shutdown client))
  Act.ofExcept c.shutdown
  Act.emit (.call (.exit client))
  Act.emit (.call (.stop client))
  unregister client

/-- Stops the clients, in the order in which they came; a fault keeps the later ones. -/
def stop : Act Session Unit := do
  Act.forEach (← Act.get).registry.clients.entries fun e => stopClient e.1 e.2

end HintLine.Session
