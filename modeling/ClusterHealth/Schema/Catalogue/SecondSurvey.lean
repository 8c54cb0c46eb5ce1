import ClusterHealth.Schema.Catalogue.Samples

/-!
# The survey of the second layout

Hardware and system information of every node as reports of the second layout carry it.
-/

namespace ClusterHealth.Catalogue

open ClusterHealth.Field

def cpu : RecordClass :=
  .plain "CPU"
    [always "vendor_id" .string, always "family" .string, always "model" .string,
      always "stepping" .integer, always "physical_id" .string, always "model_name" .string,
      always "mhz" .number, always "cache_size" .integer, always "flags" (.list .string),
      always "microcode" .string, always "cores" .integer]

/-- The processors of a node, and whether they run at full speed if that is known. -/
def cpus : RecordClass :=
  .node "CPUs" [sparse "cpus" (.list (.record cpu)), optional "is_freq_gov_perf" (.nullable .flag)]

def partition : RecordClass :=
  .plain "Partition"
    [Field.error, sparse "device" .string, sparse "mountpoint" .string, sparse "fs_type" .string,
      sparse "mount_options" .string, sparse "mount_fs_type" .string, sparse "space_total" .count,
      sparse "space_free" .count, sparse "inode_total" .count, sparse "inode_free" .count]

def partitions : RecordClass :=
  .node "Partitions" [sparse "partitions" (.list (.record partition))]

def osInfo : RecordClass :=
  .node "OSInfo"
    [sparse "info" (.record hostInfoStat), sparse "sensors" (.list (.record temperatureStat))]

def memInfo : RecordClass :=
  .node "MemInfo"
    [sparse "total" .count, sparse "available" .count, sparse "swap_space_total" .count,
      sparse "swap_space_free" .count, sparse "limit" .count]

def procInfo : RecordClass :=
  RecordClass.withAspect .owned <|
    .node "ProcInfo"
      [sparse "pid" .integer, sparse "is_background" .flag, sparse "cpu_percent" .number,
        sparse "children_pids" (.list .integer), sparse "cmd_line" .string,
        sparse "num_connections" .integer, sparse "create_time" .integer, sparse "cwd" .string,
        sparse "exec_path" .string, sparse "gids" (.list .integer), sparse "is_running" .flag,
        sparse "mem_percent" .number, sparse "name" .string, sparse "nice" .integer,
        sparse "num_fds" .integer, sparse "num_threads" .integer, sparse "ppid" .integer,
        sparse "status" .string, sparse "tgid" .integer, sparse "uids" (.list .integer),
        sparse "username" .string]

/-- What went wrong on a node. -/
def sysErrors : RecordClass :=
  .node "SysErrors" [sparse "errors" (.list .string)]

def sysService : RecordClass :=
  .plain "SysService" [always "name" .string, always "status" .string]

def sysServices : RecordClass :=
  .node "SysServices" [sparse "services" (.list (.record sysService))]

def sysConfig : RecordClass :=
  .node "SysConfig" [sparse "config" (.mapping .anything)]

/-- All nodes, by resource. -/
def sysInfo : RecordClass :=
  RecordClass.withAspect .survey <|
    .plain "SysInfo"
      [sparseAs "cpus" "cpu_info" (.list (.record cpus)),
        sparse "partitions" (.list (.record partitions)),
        sparseAs "osinfo" "os_info" (.list (.record osInfo)),
        sparseAs "meminfo" "mem_info" (.list (.record memInfo)),
        sparseAs "procinfo" "proc_info" (.list (.record procInfo)),
        sparseAs "errors" "sys_errs" (.list (.record sysErrors)),
        sparseAs "services" "sys_services" (.list (.record sysServices)),
        sparseAs "config" "sys_config" (.list (.record sysConfig))]

end ClusterHealth.Catalogue
