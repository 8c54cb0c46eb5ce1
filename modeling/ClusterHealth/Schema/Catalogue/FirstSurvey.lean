import ClusterHealth.Schema.Catalogue.Samples

/-!
# The survey of the first layout

Hardware and system information of every node as reports of the first layout carry it.
-/

namespace ClusterHealth.Catalogue

open ClusterHealth.Field

def serverCPUInfo : RecordClass :=
  .node "ServerCPUInfo"
    [sparseAs "cpu" "cpu_stat" (.list (.record cpuInfoStat)),
      sparseAs "time" "time_stat" (.list (.record cpuTimesStat))]

def serverDiskHwInfo : RecordClass :=
  .node "ServerDiskHwInfo"
    [sparseAs "usages" "usage" (.list (.record diskUsageStat)),
      sparse "partitions" (.list (.record partitionStat)),
      sparse "counters" (.mapping (.record ioCountersStat))]

def serverOsInfo : RecordClass :=
  .node "ServerOsInfo"
    [sparse "info" (.record hostInfoStat), sparse "sensors" (.list (.record temperatureStat)),
      sparse "users" (.list (.record userStat))]

def serverMemInfo : RecordClass :=
  .node "ServerMemInfo"
    [optionalAs "swap" "swap_mem" (.nullable (.record swapMemoryStat)),
      optionalAs "virtualmem" "virtual_mem" (.nullable (.record virtualMemoryStat))]

def sysProcess : RecordClass :=
  RecordClass.withAspect .owned <|
    .plain "SysProcess"
      [always "pid" .integer, sparse "background" .flag, sparseAs "cpupercent" "cpu_percent" .number,
        sparse "children" (.list .integer), sparseAs "cmd" "cmd_line" .string,
        sparse "connection_count" .integer, sparseAs "createtime" "create_time" .integer,
        sparse "cwd" .string, sparse "exe" .string, sparse "gids" (.list .integer),
        sparseAs "isrunning" "is_running" .flag, sparseAs "mempercent" "mem_percent" .number,
        sparse "name" .string, sparse "nice" .integer, sparseAs "numfds" "num_fds" .integer,
        sparseAs "numthreads" "num_threads" .integer, sparse "parent" .integer,
        sparse "ppid" .integer, sparse "status" .string, sparse "tgid" .integer,
        sparse "uids" (.list .integer), sparse "username" .string]

def serverProcInfo : RecordClass :=
  .node "ServerProcInfo" [sparse "processes" (.list (.record sysProcess))]

/-- All nodes, by resource. -/
def sysHealthInfo : RecordClass :=
  RecordClass.withAspect .survey <|
    .plain "SysHealthInfo"
      [sparseAs "cpus" "cpu_info" (.list (.record serverCPUInfo)),
        sparseAs "drives" "disk_hw_info" (.list (.record serverDiskHwInfo)),
        sparseAs "osinfos" "os_info" (.list (.record serverOsInfo)),
        sparseAs "meminfos" "mem_info" (.list (.record serverMemInfo)),
        sparseAs "procinfos" "proc_info" (.list (.record serverProcInfo)), Field.error]

end ClusterHealth.Catalogue
