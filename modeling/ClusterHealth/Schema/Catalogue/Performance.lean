import ClusterHealth.Schema.Field

/-!
# Performance

How fast the drives of the nodes and the links between them wrote.
-/

namespace ClusterHealth.Catalogue

open ClusterHealth.Field

/-- How long writes took, in seconds. -/
def latency : RecordClass :=
  .plain "Latency"
    [always "avg" .number, always "max" .number, always "min" .number, always "percentile_50" .number,
      always "percentile_90" .number, always "percentile_99" .number]

/-- How much was written, in bytes per second. -/
def throughput : RecordClass :=
  .plain "Throughput"
    [always "avg" .count, always "max" .count, always "min" .count, always "percentile_50" .count,
      always "percentile_90" .count, always "percentile_99" .count]

def drivePerfInfo : RecordClass :=
  RecordClass.withAspect .failing <|
    .plain "DrivePerfInfo"
      [Field.error, always "path" .string, always "latency" (.record latency),
        always "throughput" (.record throughput)]

/-- The drives of a node, measured one at a time and all at once. -/
def drivePerfInfos : RecordClass :=
  .node "DrivePerfInfos"
    [sparse "serial_perf" (.list (.record drivePerfInfo)),
      sparse "parallel_perf" (.list (.record drivePerfInfo))]

def peerNetPerfInfo : RecordClass :=
  .node "PeerNetPerfInfo"
    [always "latency" (.record latency), always "throughput" (.record throughput)]

def netPerfInfo : RecordClass :=
  .node "NetPerfInfo" [sparse "remote_peers" (.list (.record peerNetPerfInfo))]

def perfInfo : RecordClass :=
  .plain "PerfInfo"
    [sparse "drives" (.list (.record drivePerfInfos)), sparse "net" (.list (.record netPerfInfo)),
      always "net_parallel" (.record netPerfInfo)]

end ClusterHealth.Catalogue
