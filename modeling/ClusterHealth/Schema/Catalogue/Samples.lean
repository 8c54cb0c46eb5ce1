import ClusterHealth.Schema.Field

/-!
# Samples of a host

What one node says about its processors, drives, operating system and memory. Every field of a
sample is always written.
-/

namespace ClusterHealth.Catalogue

open ClusterHealth.Field

def cpuInfoStat : RecordClass :=
  .plain "CPUInfoStat"
    [always "cpu" .integer, alwaysAs "vendorId" "vendor_id" .string, always "family" .string,
      always "model" .string, always "stepping" .integer, alwaysAs "physicalId" "physical_id" .string,
      alwaysAs "coreId" "core_id" .string, always "cores" .integer,
      alwaysAs "modelName" "model_name" .string, always "mhz" .number,
      alwaysAs "cacheSize" "cache_size" .integer, always "flags" (.list .string),
      always "microcode" .string]

/-- How a processor spent its time. -/
def cpuTimesStat : RecordClass :=
  .plain "CPUTimesStat"
    [always "cpu" .string, always "user" .number, always "system" .number, always "idle" .number,
      always "nice" .number, always "iowait" .number, always "irq" .number, always "softirq" .number,
      always "steal" .number, always "guest" .number, alwaysAs "guestNice" "guest_nice" .number]

/-- How full a drive is. -/
def diskUsageStat : RecordClass :=
  .plain "DiskUsageStat"
    [always "path" .string, always "fstype" .string, always "total" .count, always "free" .count,
      always "used" .count, alwaysAs "usedPercent" "used_percent" .number,
      alwaysAs "inodesTotal" "inodes_total" .count, alwaysAs "inodesUsed" "inodes_used" .count,
      alwaysAs "inodesFree" "inodes_free" .count,
      alwaysAs "inodesUsedPercent" "inodes_used_percent" .number]

def partitionStat : RecordClass :=
  .plain "PartitionStat"
    [always "device" .string, always "mountpoint" .string, always "fstype" .string,
      always "opts" .string]

/-- What passed through a drive. -/
def ioCountersStat : RecordClass :=
  .plain "IOCountersStat"
    [alwaysAs "readCount" "read_count" .count, alwaysAs "mergedReadCount" "merged_read_count" .count,
      alwaysAs "writeCount" "write_count" .count,
      alwaysAs "mergedWriteCount" "merged_write_count" .count,
      alwaysAs "readBytes" "read_bytes" .count, alwaysAs "writeBytes" "write_bytes" .count,
      alwaysAs "readTime" "read_time" .count, alwaysAs "writeTime" "write_time" .count,
      alwaysAs "iopsInProgress" "iops_in_progress" .count, alwaysAs "ioTime" "io_time" .count,
      alwaysAs "weightedIO" "weighted_io" .count, always "name" .string,
      alwaysAs "serialNumber" "serial_number" .string, always "label" .string]

def hostInfoStat : RecordClass :=
  .plain "HostInfoStat"
    [always "hostname" .string, always "uptime" .count, alwaysAs "bootTime" "boot_time" .count,
      always "procs" .count, always "os" .string, always "platform" .string,
      alwaysAs "platformFamily" "platform_family" .string,
      alwaysAs "platformVersion" "platform_version" .string,
      alwaysAs "kernelVersion" "kernel_version" .string, alwaysAs "kernelArch" "kernel_arch" .string,
      alwaysAs "virtualizationSystem" "virtualization_system" .string,
      alwaysAs "virtualizationRole" "virtualization_role" .string,
      alwaysAs "hostId" "host_id" .string]

def temperatureStat : RecordClass :=
  .plain "TemperatureStat" [alwaysAs "sensorKey" "sensor_key" .string, always "temperature" .number]

def userStat : RecordClass :=
  .plain "UserStat"
    [always "user" .string, always "terminal" .string, always "host" .string,
      always "started" .integer]

def swapMemoryStat : RecordClass :=
  .plain "SwapMemoryStat"
    [always "total" .count, always "used" .count, always "free" .count,
      alwaysAs "usedPercent" "used_percent" .number, always "sin" .count, always "sout" .count,
      alwaysAs "pgIn" "pg_in" .count, alwaysAs "pgOut" "pg_out" .count,
      alwaysAs "pgFault" "pg_fault" .count]

def virtualMemoryStat : RecordClass :=
  .plain "VirtualMemoryStat"
    [always "total" .count, always "available" .count, always "used" .count,
      alwaysAs "usedPercent" "used_percent" .number, always "free" .count, always "active" .count,
      always "inactive" .count, always "buffers" .count, always "cached" .count,
      always "shared" .count, alwaysAs "swapTotal" "swap_total" .count,
      alwaysAs "swapFree" "swap_free" .count]

end ClusterHealth.Catalogue
