import GoFabric8.Text
import GoFabric8.Cluster
import GoFabric8.Prog
import GoFabric8.Cmdutil
import GoFabric8.Manifest.Filter
import GoFabric8.Manifest.Blocks
import GoFabric8.ErasePvc.Discover
import GoFabric8.ErasePvc.Workflow
import GoFabric8.ErasePvc.Safety
import GoFabric8.ErasePvc.Pods
import GoFabric8.ErasePvc.Scope
import GoFabric8.Fmt
import GoFabric8.Service.Retry
import GoFabric8.Service.Lookup
import GoFabric8.Service.Open
import GoFabric8.Uninstall
import GoFabric8.Main
