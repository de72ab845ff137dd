import SinkAudit.Settings.Basic

/-!
# Clients of storage services

What a client is made with, and the calls that a client receives. Nothing else of the packages of the
services is modelled as what it is: what comes of a call is given from outside, and a call is a record of
what it was made with. So that a run reaches a service in the right way, and with the right credentials, is
a statement about these records.

An account of Azure can be reached in four ways, depending on whether there is a connection string and
whether there is an address of its own. The case in between is the one to look at: a connection string knows
an address itself, and if another one is wanted, the account and its key have to be cut out of the text.

- `valueAfter?`: the value that a mark introduces in a connection string.
- `S3Client`, `AzureClient`: how clients are made; `AzureClient.ofSettings` tells the ways to reach an
  Azure account apart.
- `ServiceCall`: a call to the package of a service.
-/

namespace SinkAudit

/-- The value after the first place where a mark is followed by one. Values end before a semicolon, and are
not empty. The mark may stand anywhere, also inside another value. -/
def valueAfter? (mark : List Char) : List Char → Option (List Char)
  | [] => none
  | c :: rest =>
    let value := ((c :: rest).drop mark.length).takeWhile (· != ';')
    if mark.isPrefixOf (c :: rest) && !value.isEmpty then some value else valueAfter? mark rest

/-- The account name in a connection string, behind the first mark that has one. -/
def connectionAccount? (s : String) : Option String :=
  (valueAfter? "AccountName=".toList s.toList).map String.ofList

/-- The account key in a connection string. It may hold equals signs, and ends at a semicolon. -/
def connectionKey? (s : String) : Option String :=
  (valueAfter? "AccountKey=".toList s.toList).map String.ofList

/-- An address without slashes at its end. -/
def dropSlashes (s : String) : String :=
  String.ofList (s.toList.reverse.dropWhile (· == '/')).reverse

/-- How a client of S3 is made, by `boto3.client` and its `Config`. Of a request that fails in passing
the package itself makes one more attempt, as it counts attempts in its standard mode; the adapter knows
nothing of that and calls the client once. -/
structure S3Client where
  region : Option String
  endpoint : Option String
  accessKey : Option String
  secretKey : Option String
  /-- How long to connect may take, and how long to read. -/
  timeout : Seconds
  retryMode : String := "standard"
  maxAttempts : Nat := 1

/-- The client that settings ask for. -/
def S3Client.ofSettings (s : Settings) : S3Client where
  region := s.region
  endpoint := s.endpoint
  accessKey := s.accessKey
  secretKey := s.secretKey
  timeout := s.timeout

/-- What a client of Azure proves itself with: nothing, the key of the account in its address, or the name
of an account and its key. -/
inductive AzureCredential where
  | none
  | key (accountKey : Option String)
  | account (name key : String)

/-- How a client of Azure is made: by `BlobServiceClient.from_connection_string`, or by
`BlobServiceClient` from the address of an account. The time that it may take to connect and to read
goes with either. So does `retry_total`, which is always zero, so that each request is sent once. -/
inductive AzureClient where
  | ofConnection (connectionString : String) (timeout : Seconds)
  | ofAccount (url : String) (credential : AzureCredential) (timeout : Seconds)

/-- The client that settings ask for. An address of its own takes the account, and the key if there is
one, out of a connection string that names an account. -/
def AzureClient.ofSettings (s : Settings) : AzureClient :=
  let endpoint := (s.blobEndpoint.filter (· != "")).map dropSlashes
  match s.connectionString.filter (· != "") with
  | some connection =>
    match endpoint, connectionAccount? connection with
    | some endpoint, some account =>
      let credential := match connectionKey? connection with
        | some key => .account account key
        | none => .none
      .ofAccount (endpoint ++ "/" ++ account) credential s.timeout
    -- without an account to put behind the address, the connection string is used as it is
    | _, _ => .ofConnection connection s.timeout
  | none =>
    let account := s.account.getD "None"
    let url := match endpoint with
      | some endpoint => endpoint ++ "/" ++ account
      | none => "https://" ++ account ++ ".blob.core.windows.net"
    .ofAccount url (.key s.accountKey) s.timeout

/-- A call to the package of a service: one that makes a client, one that names a bucket to it, or the
request that asks for the bucket. -/
inductive ServiceCall where
  | openS3 (c : S3Client)
  | openAzure (c : AzureClient)
  | headBucket (name : String)
  | selectContainer (name : String)
  | containerExists

end SinkAudit
