import FourthServer.Acceptor.Queue
import FourthServer.Acceptor.Signals
import FourthServer.Acceptor.Stop
import FourthServer.Client.Disconnection
import FourthServer.Link.Agreement
import FourthServer.Link.Callers
import FourthServer.Link.Calls
import FourthServer.Link.Fair
import FourthServer.Link.Gates
import FourthServer.Link.HalfSent
import FourthServer.Link.KnownRoutes
import FourthServer.Link.Stale
import FourthServer.Server.Connections
import FourthServer.Server.Discipline
import FourthServer.Server.Errors
import FourthServer.Server.Handoff
import FourthServer.Server.Names
import FourthServer.Server.Panics
import FourthServer.Server.Registry
