import ClusterHealth.Entries
import ClusterHealth.Schema.Catalogue.Deployment
import ClusterHealth.Schema.Catalogue.FirstSurvey
import ClusterHealth.Schema.Catalogue.Performance
import ClusterHealth.Schema.Catalogue.SecondSurvey

/-!
# The catalogue of record classes

The reports of both layouts, the header that they share, and the list of all classes by the names
under which they are found.
-/

namespace ClusterHealth.Catalogue

open ClusterHealth.Field

def version0 : Text := []

def version2 : Text := "2"

/-- A report of the first layout. -/
def healthInfoV0 : RecordClass :=
  RecordClass.withAspect .report <|
    .plain "HealthInfoV0"
      [sparse "timestamp" .time, Field.error, sparse "sys" (.record sysHealthInfo)]

/-- A report of the second layout. -/
def healthInfoV2 : RecordClass :=
  RecordClass.withAspect .report <|
    .plain "HealthInfoV2"
      [always "version" (.text version2), Field.error, sparse "timestamp" .time,
        sparse "sys" (.record sysInfo), sparse "perf" (.record perfInfo),
        sparse "minio" (.record minioHealthInfo)]

/-- The version and the error of a report of either layout. -/
def healthInfoVersion : RecordClass :=
  .plain "HealthInfoVersion" [always "version" (.text version0), Field.error]

def baseModel : RecordClass :=
  .plain "BaseModel" []

def nodeCommon : RecordClass :=
  .node "NodeCommon" []

/-- All classes that go by their own names. -/
def named : List RecordClass :=
  [nodeCommon, latency, throughput, drivePerfInfo, drivePerfInfos, peerNetPerfInfo, netPerfInfo,
    perfInfo, cpuInfoStat, cpuTimesStat, diskUsageStat, partitionStat, ioCountersStat, hostInfoStat,
    temperatureStat, userStat, swapMemoryStat, virtualMemoryStat, sysHealthInfo, serverCPUInfo,
    serverDiskHwInfo, serverOsInfo, serverMemInfo, serverProcInfo, sysProcess, sysInfo, cpu, cpus,
    partition, partitions, osInfo, memInfo, procInfo, sysErrors, sysService, sysServices, sysConfig,
    infoMessage, buckets, objects, usage, services, memStats, disk, serverProperties,
    minioHealthInfoV0, minioConfig, minioHealthInfo, healthInfoV0, healthInfoV2, healthInfoVersion]

/-- All classes under the names by which they are found. -/
def all : Entries RecordClass :=
  ("HealthModel", baseModel) :: named.map fun cls => (cls.name, cls)

def find? (name : Text) : Option RecordClass :=
  all.get? name

end ClusterHealth.Catalogue
