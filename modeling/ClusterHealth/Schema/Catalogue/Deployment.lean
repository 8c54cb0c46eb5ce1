import ClusterHealth.Schema.Field

/-!
# The deployment

What the object store says about itself: its servers and their drives, its content and the services
that it talks to. The documents of those services are passed through as they are.
-/

namespace ClusterHealth.Catalogue

open ClusterHealth.Field

/-- The number of buckets. -/
def buckets : RecordClass :=
  .plain "Buckets" [always "count" .count, Field.error]

/-- The number of objects. -/
def objects : RecordClass :=
  .plain "Objects" [always "count" .count, Field.error]

/-- The size of all objects. -/
def usage : RecordClass :=
  .plain "Usage" [always "size" .count, Field.error]

def services : RecordClass :=
  .plain "Services"
    [sparse "kms" (.mapping .anything), sparse "ldap" (.mapping .anything),
      sparse "logger" (.list .anything), sparse "audit" (.list .anything),
      sparse "notifications" (.list .anything)]

/-- The memory of a server process. -/
def memStats : RecordClass :=
  .plain "MemStats"
    [alwaysAs "Alloc" "alloc" .count, alwaysAs "TotalAlloc" "total_alloc" .count,
      alwaysAs "Mallocs" "mallocs" .count, alwaysAs "Frees" "frees" .count,
      alwaysAs "HeapAlloc" "heap_alloc" .count]

def disk : RecordClass :=
  .plain "Disk"
    [sparse "endpoint" .string, sparseAs "rootDisk" "root_disk" .flag,
      sparseAs "path" "drive_path" .string, sparse "healing" .flag, sparse "state" .string,
      sparse "uuid" .string, sparse "model" .string, sparseAs "totalspace" "total_space" .count,
      sparseAs "usedspace" "used_space" .count, sparseAs "availspace" "available_space" .count,
      sparseAs "readthroughput" "read_throughput" .number,
      sparseAs "writethroughput" "write_throughput" .number,
      sparseAs "readlatency" "read_latency" .number, sparseAs "writelatency" "write_latency" .number,
      sparse "utilization" .number]

def serverProperties : RecordClass :=
  .plain "ServerProperties"
    [sparse "state" .string, sparse "endpoint" .string, sparse "uptime" .integer,
      sparse "version" .string, sparseAs "commitID" "commit_id" .string,
      sparse "network" (.mapping .string), sparseAs "drives" "disks" (.list (.record disk)),
      sparseAs "poolNumber" "pool_number" .integer, always "mem_stats" (.record memStats)]

/-- The deployment as a whole. -/
def infoMessage : RecordClass :=
  .plain "InfoMessage"
    [sparse "mode" .string, sparse "domain" (.list .string), sparse "region" .string,
      sparseAs "sqsARN" "sqs_arn" (.list .string), sparseAs "deploymentID" "deployment_id" .string,
      sparse "buckets" (.record buckets), sparse "objects" (.record objects),
      sparse "usage" (.record usage), sparse "services" (.record services),
      optional "backend" .anything, sparse "servers" (.list (.record serverProperties))]

/-- The deployment with its configuration, as the first layout has it. -/
def minioHealthInfoV0 : RecordClass :=
  .plain "MinioHealthInfoV0"
    [sparse "info" (.record infoMessage), optional "config" .anything, Field.error]

def minioConfig : RecordClass :=
  .plain "MinioConfig" [Field.error, optional "config" .anything]

/-- The deployment with its configuration, as the second layout has it. -/
def minioHealthInfo : RecordClass :=
  .plain "MinioHealthInfo"
    [Field.error, sparse "config" (.record minioConfig), sparse "info" (.record infoMessage)]

end ClusterHealth.Catalogue
