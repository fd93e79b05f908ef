/-
  The modules that are part of the runtime, by the first segment of a reference.
-/
namespace ImportSurvey.Resolve

def coreModules : List String := [
  "assert", "async_hooks", "buffer", "child_process", "cluster", "console", "constants", "crypto",
  "dgram", "diagnostics_channel", "dns", "domain", "events", "fs", "http", "http2", "https",
  "inspector", "module", "net", "os", "path", "perf_hooks", "process", "punycode", "querystring",
  "readline", "repl", "stream", "string_decoder", "sys", "timers", "tls", "trace_events", "tty",
  "url", "util", "v8", "vm", "wasi", "worker_threads", "zlib"]

/-- Whether a reference names a module of the runtime: with the scheme of such modules in front, or
by its first segment. -/
def isCoreModule (reference : String) : Bool :=
  "node:".toList.isPrefixOf reference.toList ||
    coreModules.contains (.ofList (reference.toList.takeWhile (· ≠ '/')))

end ImportSurvey.Resolve
