import SingleWriter.Settings

/-!
# What is wrong with settings

Settings can be well-formed and still make no sense. Every problem is reported, in a
fixed order, with the key it is about. Valid settings have none.
-/

set_option autoImplicit false

namespace SingleWriter

namespace Settings

inductive Problem where
  | noHosts
  | hosts (e : AddrError)
  | blacklist (e : AddrError)
  | sameHostgroup
  | mode (name : String)
  | noAdminHost
  | noNodeTimeout
  | noAdminTimeout
  | logFormat
  deriving DecidableEq

namespace Problem

def key : Problem → String
  | .noHosts => "galera.cluster_host"
  | .hosts _ => "galera.cluster_host"
  | .blacklist _ => "galera.writer_blacklist"
  | .sameHostgroup => "galera.reader_hostgroup_id"
  | .mode _ => "galera.load_balancing_mode"
  | .noAdminHost => "proxysql.host"
  | .noNodeTimeout => "timeouts.node_connect_secs"
  | .noAdminTimeout => "timeouts.admin_connect_secs"
  | .logFormat => "observability.log_format"

def message : Problem → String
  | .noHosts => "must not be empty"
  | .hosts e => e.message
  | .blacklist e => e.message
  | .sameHostgroup => "must differ from writer_hostgroup_id"
  | .mode name => s!"unsupported mode '{name}'"
  | .noAdminHost => "must be set when admin_socket is not"
  | .noNodeTimeout => "must be > 0"
  | .noAdminTimeout => "must be > 0"
  | .logFormat => "expected one of [\"pretty\", \"json\"]"

def text (p : Problem) : String := s!"{p.key}: {p.message}"

end Problem

def listProblems (problem : AddrError → Problem) (list : String) : List Problem :=
  match Addr.parseList list with
  | .ok _ => []
  | .error e => [problem e]

/-- The problem, when the condition holds. -/
def problemIf (condition : Bool) (p : Problem) : List Problem := if condition then [p] else []

def problems (s : Settings) : List Problem :=
  (if Text.isBlankText s.cluster.hosts then [.noHosts] else listProblems .hosts s.cluster.hosts) ++
  (s.cluster.blacklist.map (listProblems .blacklist)).getD [] ++
  problemIf (s.cluster.writerGroup = s.cluster.readerGroup) .sameHostgroup ++
  problemIf (s.cluster.mode ≠ "singlewriter") (.mode s.cluster.mode) ++
  problemIf (s.admin.socket.isNone && Text.isBlankText s.admin.host) .noAdminHost ++
  problemIf (s.timeouts.nodeSecs = 0) .noNodeTimeout ++
  problemIf (s.timeouts.adminSecs = 0) .noAdminTimeout ++
  problemIf (s.log.format ≠ "pretty" && s.log.format ≠ "json") .logFormat

def isValid (s : Settings) : Bool := s.problems.isEmpty

end Settings

end SingleWriter
